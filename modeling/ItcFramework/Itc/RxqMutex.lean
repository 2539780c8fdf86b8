import ItcFramework.Lib.Bytes
import ItcFramework.Lib.Transition

/-!
# The mutex of a rx queue

The calls that lock the `rxq_mtx` of a mailbox, followed in all that they do to it.
`itc_send_zz` unlocks it inside the loop over the transports, at each that fails, and again behind the
loop, and goes on without it; `itc_delete_mailbox_zz` returns between a lock and its unlock.

* `RxqM` — programs of one thread over one `rxq_mtx`. The mutex checks for errors: an unlock by
  another than its owner changes nothing, and the code does not look.
* `RxqCall.run` — the calls; what the transports answer, and what `p_rxq_info` is whenever it is
  read, are arguments.
* `Disciplined` — after every call the thread holds no `rxq_mtx`; the call has unlocked as often as
  it has locked, and changed the rx queue and its length under the lock alone.
* `rxq_discipline_iff` — the runs that are disciplined.
-/

set_option autoImplicit false

namespace ItcFramework

open ByteImage Transition

/-- A `rxq_mtx` as a thread sees it during a call. -/
structure RxqMtx where
  /-- By this thread. -/
  held : Bool
  locks : Nat
  unlocks : Nat
  /-- The rx queue or `rxq_len` has been changed by a thread that did not hold it. -/
  bare : Bool
  deriving DecidableEq, Repr

def RxqMtx.start (held : Bool) : RxqMtx := ⟨held, 0, 0, false⟩

structure RxqMtx.Balanced (m : RxqMtx) : Prop where
  held : m.held = false
  unlocks : m.unlocks = m.locks
  bare : m.bare = false

abbrev RxqM := StateT RxqMtx (Except MemFault)

namespace RxqM

/-- `MUTEX_LOCK`, which returns `EDEADLK` when the thread holds it already. -/
def lock : RxqM Unit := fun m =>
  .ok ((), { m with held := true, locks := if m.held then m.locks else m.locks + 1 })

def unlock : RxqM Unit := fun m => .ok ((), { m with held := false, unlocks := m.unlocks + 1 })

/-- `MUTEX_UNLOCK` by way of `p_rxq_info`, which `info` tells not to be `NULL`. -/
def unlockInfo (info : Bool) : RxqM Unit := if info then unlock else fun _ => .error .nullDeref

/-- A change of the rx queue or of `rxq_len`. -/
def change : RxqM Unit := fun m => .ok ((), { m with bare := m.bare || !m.held })

/-! ## Sending -/

/-- What a transport that can send makes of the message. -/
structure TransAnswer where
  sent : Bool
  /-- It has put it into the rx queue of the mailbox. -/
  queued : Bool
  /-- `p_rxq_info` is not `NULL` afterwards. -/
  info : Bool
  deriving DecidableEq, Repr

/-- What `find_mbox` and the state of the mailbox tell. -/
inductive SendTarget where
  | elsewhere
  | inactive
  | active
  deriving DecidableEq, Repr

structure SendAnswers where
  /-- The call returns before it looks for the mailbox. -/
  refused : Bool
  target : SendTarget
  trans : List TransAnswer
  /-- `p_rxq_info` is not `NULL` behind the loop. -/
  info : Bool
  deriving DecidableEq, Repr

/-- The loop of `itc_send_zz` for a mailbox of this process. -/
def sendLoop : List TransAnswer → RxqM Bool
  | [] => pure false
  | x :: xs =>
      if x.sent then
        if x.queued then do
          change
          return true
        else pure true
      else do
        unlockInfo x.info
        sendLoop xs

/-- What comes behind the loop. -/
def finishSend (info : Bool) (sent : Bool) : RxqM Bool :=
  if sent then
    if info then do
      -- `rxq_len++`
      change
      unlock
      return true
    else pure true
  else do
    unlockInfo info
    return false

/-- `itc_send_zz` from the lock on. -/
def sendLocked (a : SendAnswers) : RxqM Bool := do
  lock
  let sent ← sendLoop a.trans
  finishSend a.info sent

def itcSend (a : SendAnswers) : RxqM Bool :=
  if a.refused then pure false
  else match a.target with
    | .elsewhere => pure (a.trans.any TransAnswer.sent)
    | .inactive => pure false
    | .active => sendLocked a

/-! ## Creating and deleting -/

structure CreateAnswers where
  /-- The call returns before it has a mailbox. -/
  refused : Bool
  /-- What the transports that create mailboxes report. -/
  trans : List Bool
  setspecific : Bool
  deriving DecidableEq, Repr

/-- `itc_create_mailbox_zz`; the notification of itccoord is sent after the last unlock. -/
def itcCreateMailbox (a : CreateAnswers) : RxqM Bool :=
  if a.refused then pure false
  else do
    lock
    if ¬ a.trans.all id then
      unlock
      return false
    else if ¬ a.setspecific then
      unlock
      return false
    else
      unlock
      return true

structure DeleteAnswers where
  refused : Bool
  info : Bool
  /-- `pthread_mutex_lock` fails with another error than `EDEADLK`. -/
  lockError : Bool
  /-- There is an `rc`. -/
  rc : Bool
  trans : List Bool
  enqueue : Bool
  deriving DecidableEq, Repr

/-- `itc_delete_mailbox_zz` from the lock on. -/
def deleteLocked (a : DeleteAnswers) : RxqM Bool := do
  lock
  if ¬ a.rc then return false
  else
    unlock
    lock
    if ¬ a.trans.all id then return false
    else if ¬ a.enqueue then return false
    else
      unlock
      return true

def itcDeleteMailbox (a : DeleteAnswers) : RxqM Bool :=
  if a.refused then pure false
  else if ¬ a.info then fun _ => .error .nullDeref
  else if a.lockError then pure false
  else deleteLocked a

end RxqM

/-! ## Calls and runs -/

inductive RxqCall where
  | send (a : RxqM.SendAnswers)
  | create (a : RxqM.CreateAnswers)
  | delete (a : RxqM.DeleteAnswers)
  deriving DecidableEq, Repr

def RxqCall.run : RxqCall → RxqM Bool
  | .send a => RxqM.itcSend a
  | .create a => RxqM.itcCreateMailbox a
  | .delete a => RxqM.itcDeleteMailbox a

/-- The mutexes that the thread holds, by mailbox, and what its last call did to that of its
mailbox. -/
structure RxqLocks where
  held : Nat → Bool
  last : RxqMtx

def RxqLocks.init : RxqLocks := ⟨fun _ => false, .start false⟩

/-- A call of the thread with the mailbox `i`. -/
def RxqStep (w : Except MemFault RxqLocks) (c : Nat × RxqCall) (w' : Except MemFault RxqLocks) :
    Prop :=
  ∃ l, w = .ok l ∧ w' = (c.2.run (.start (l.held c.1))).map fun r =>
    ⟨fun i => if i = c.1 then r.2.held else l.held i, r.2⟩

/-- The last call has returned, balanced, and the thread holds no `rxq_mtx`. -/
def RxqDisciplined (w : Except MemFault RxqLocks) : Prop :=
  ∃ l, w = .ok l ∧ l.last.Balanced ∧ ∀ i, l.held i = false

namespace RxqM

/-- The mutex is unlocked behind the loop and nowhere else: the first transport sends. Or the first
fails, the second sends without the rx queue, and `p_rxq_info` is `NULL` only behind the loop. -/
def SendAnswers.Unlocked (a : SendAnswers) : Prop :=
  match a.trans with
  | [] => a.info = true
  | x :: xs =>
      if x.sent then a.info = true
      else x.info = true ∧ a.info = false ∧ ∃ y, xs.head? = some y ∧ y.sent = true ∧
        y.queued = false

end RxqM

/-- The call leaves the mutex as it was. -/
def RxqCall.MayCall : RxqCall → Prop
  | .send a => a.refused = true ∨ a.target ≠ .active ∨ a.Unlocked
  | .create _ => True
  | .delete a => a.refused = true ∨ a.info = true ∧
      (a.lockError = true ∨ a.rc = true ∧ a.trans.all id = true ∧ a.enqueue = true)

/-! ## One call -/

namespace RxqM

/-- The call returns, and has left the mutex as it was. -/
def Balances (call : RxqM Bool) : Prop :=
  ∃ ret m, call (.start false) = .ok (ret, m) ∧ m.Balanced

theorem not_balances_of_fault {call : RxqM Bool} {fault : MemFault}
    (hcall : call (.start false) = .error fault) : ¬ Balances call := by
  rintro ⟨ret, m, hok, -⟩
  rw [hcall] at hok
  cases hok

theorem not_balances_of_left {call : RxqM Bool} {ret : Bool} {m : RxqMtx}
    (hcall : call (.start false) = .ok (ret, m)) (hleft : ¬ m.Balanced) : ¬ Balances call := by
  rintro ⟨ret', m', hok, hbal⟩
  rw [hcall] at hok
  cases hok
  exact hleft hbal

/-- Nothing locks behind the first lock, and an unlock is not undone. -/
theorem sendLoop_counts {xs : List TransAnswer} {sent : Bool} {m m' : RxqMtx}
    (h : sendLoop xs m = .ok (sent, m')) : m'.locks = m.locks ∧ m.unlocks ≤ m'.unlocks := by
  induction xs generalizing m with
  | nil =>
    cases h
    exact ⟨rfl, Nat.le_refl _⟩
  | cons x xs ih =>
    unfold sendLoop at h
    split at h
    · split at h
      · cases h
        exact ⟨rfl, Nat.le_refl _⟩
      · cases h
        exact ⟨rfl, Nat.le_refl _⟩
    · cases hinfo : x.info with
      | true =>
        rw [hinfo] at h
        obtain ⟨hlocks, hunlocks⟩ := ih (show sendLoop xs
          { m with held := false, unlocks := m.unlocks + 1 } = _ from h)
        exact ⟨hlocks, Nat.le_of_succ_le hunlocks⟩
      | false =>
        rw [hinfo] at h
        cases h

theorem finishSend_counts {info sent ret : Bool} {m m' : RxqMtx}
    (h : finishSend info sent m = .ok (ret, m')) : m'.locks = m.locks ∧ m.unlocks ≤ m'.unlocks := by
  cases sent <;> cases info <;> cases h
  · exact ⟨rfl, Nat.le_succ _⟩
  · exact ⟨rfl, Nat.le_refl _⟩
  · exact ⟨rfl, Nat.le_succ _⟩

/-- Two transports that fail have unlocked twice. -/
theorem twice_unlocked {xs : List TransAnswer} {info : Bool} {m : RxqMtx} (hlocks : m.locks = 1)
    (hunlocks : 2 ≤ m.unlocks) : ¬ ∃ ret m', (sendLoop xs >>= finishSend info) m = .ok (ret, m') ∧
      m'.Balanced := by
  rintro ⟨ret, m', hcall, hbal⟩
  change (sendLoop xs m >>= fun r => finishSend info r.1 r.2) = _ at hcall
  obtain ⟨⟨sent, m₁⟩, hloop, hfinish⟩ := bind_eq_ok hcall
  obtain ⟨hloop₁, hloop₂⟩ := sendLoop_counts hloop
  obtain ⟨hfinish₁, hfinish₂⟩ : m'.locks = m₁.locks ∧ m₁.unlocks ≤ m'.unlocks :=
    finishSend_counts hfinish
  have heq := hbal.unlocks
  omega

/-- **What a sender does to the mutex of a mailbox in use.** -/
theorem sendLocked_iff (a : SendAnswers) : Balances (sendLocked a) ↔ a.Unlocked := by
  obtain ⟨refused, target, trans, info⟩ := a
  cases trans with
  | nil =>
    cases info with
    | true => exact iff_of_true ⟨false, _, rfl, rfl, rfl, rfl⟩ rfl
    | false => exact iff_of_false (not_balances_of_fault rfl) Bool.false_ne_true
  | cons x xs =>
    obtain ⟨sent, queued, xinfo⟩ := x
    cases sent with
    | true =>
      cases info with
      | true => cases queued <;> exact iff_of_true ⟨true, _, rfl, rfl, rfl, rfl⟩ rfl
      | false =>
        refine iff_of_false ?_ Bool.false_ne_true
        cases queued
        · exact not_balances_of_left rfl fun hbal => Bool.noConfusion hbal.held
        · exact not_balances_of_left rfl fun hbal => Bool.noConfusion hbal.held
    | false =>
      cases xinfo with
      | false => exact iff_of_false (not_balances_of_fault rfl) fun h => Bool.false_ne_true h.1
      | true =>
        cases xs with
        | nil =>
          refine iff_of_false ?_ ?_
          · cases info
            · exact not_balances_of_fault rfl
            · refine not_balances_of_left rfl fun hbal => ?_
              cases hbal.unlocks
          · rintro ⟨-, -, y, hy, -⟩
            cases hy
        | cons y ys =>
          obtain ⟨ysent, yqueued, yinfo⟩ := y
          cases ysent with
          | true =>
            cases info with
            | true =>
              refine iff_of_false ?_ fun h => Bool.false_ne_true h.2.1.symm
              cases yqueued
              · refine not_balances_of_left rfl fun hbal => ?_
                cases hbal.unlocks
              · refine not_balances_of_left rfl fun hbal => ?_
                cases hbal.unlocks
            | false =>
              cases yqueued with
              | true =>
                refine iff_of_false (not_balances_of_left rfl fun hbal => Bool.noConfusion hbal.bare) ?_
                rintro ⟨-, -, y, ⟨⟩, -, hqueued⟩
                cases hqueued
              | false =>
                exact iff_of_true ⟨true, _, rfl, rfl, rfl, rfl⟩ ⟨rfl, rfl, _, rfl, rfl, rfl⟩
          | false =>
            refine iff_of_false ?_ ?_
            · cases yinfo with
              | true =>
                have htwice : ¬ ∃ ret m', (sendLoop ys >>= finishSend info) ⟨false, 1, 2, false⟩ =
                    .ok (ret, m') ∧ m'.Balanced := twice_unlocked rfl (Nat.le_refl 2)
                exact htwice
              | false => exact not_balances_of_fault rfl
            · rintro ⟨-, -, y, ⟨⟩, hsent, -⟩
              cases hsent

theorem itcSend_iff (a : SendAnswers) : Balances (itcSend a) ↔ (RxqCall.send a).MayCall := by
  have hidle : ∀ ret, Balances (pure ret) := fun ret => ⟨ret, _, rfl, rfl, rfl, rfl⟩
  unfold itcSend
  by_cases hrefused : a.refused = true
  · rw [if_pos hrefused]
    exact iff_of_true (hidle false) (.inl hrefused)
  · rw [if_neg hrefused]
    cases htarget : a.target with
    | elsewhere =>
      refine iff_of_true (hidle _) (.inr (.inl ?_))
      rw [htarget]
      exact fun hno => by cases hno
    | inactive =>
      refine iff_of_true (hidle false) (.inr (.inl ?_))
      rw [htarget]
      exact fun hno => by cases hno
    | active =>
      refine (sendLocked_iff a).trans ⟨fun h => .inr (.inr h), ?_⟩
      rintro (h | h | h)
      · exact absurd h hrefused
      · exact absurd htarget h
      · exact h

theorem itcCreateMailbox_balances (a : CreateAnswers) : Balances (itcCreateMailbox a) := by
  unfold itcCreateMailbox
  split
  · exact ⟨false, _, rfl, rfl, rfl, rfl⟩
  · cases htrans : a.trans.all id with
    | false => exact ⟨false, ⟨false, 1, 1, false⟩, rfl, rfl, rfl, rfl⟩
    | true =>
      cases hkey : a.setspecific with
      | false => exact ⟨false, ⟨false, 1, 1, false⟩, rfl, rfl, rfl, rfl⟩
      | true => exact ⟨true, ⟨false, 1, 1, false⟩, rfl, rfl, rfl, rfl⟩

theorem deleteLocked_iff (a : DeleteAnswers) : Balances (deleteLocked a) ↔
    a.rc = true ∧ a.trans.all id = true ∧ a.enqueue = true := by
  unfold deleteLocked
  cases a.rc with
  | false =>
    exact iff_of_false (not_balances_of_left rfl fun hbal => Bool.noConfusion hbal.held)
      fun h => Bool.false_ne_true h.1
  | true =>
    cases a.trans.all id with
    | false =>
      exact iff_of_false (not_balances_of_left rfl fun hbal => Bool.noConfusion hbal.held)
        fun h => Bool.false_ne_true h.2.1
    | true =>
      cases a.enqueue with
      | false =>
        exact iff_of_false (not_balances_of_left rfl fun hbal => Bool.noConfusion hbal.held)
          fun h => Bool.false_ne_true h.2.2
      | true => exact iff_of_true ⟨true, ⟨false, 2, 2, false⟩, rfl, rfl, rfl, rfl⟩ ⟨rfl, rfl, rfl⟩

theorem itcDeleteMailbox_iff (a : DeleteAnswers) :
    Balances (itcDeleteMailbox a) ↔ (RxqCall.delete a).MayCall := by
  obtain ⟨refused, info, lockError, rc, trans, enqueue⟩ := a
  cases refused with
  | true => exact iff_of_true ⟨false, _, rfl, rfl, rfl, rfl⟩ (.inl rfl)
  | false =>
    cases info with
    | false =>
      refine iff_of_false (not_balances_of_fault rfl) ?_
      rintro (h | ⟨h, -⟩) <;> cases h
    | true =>
      cases lockError with
      | true => exact iff_of_true ⟨false, _, rfl, rfl, rfl, rfl⟩ (.inr ⟨rfl, .inl rfl⟩)
      | false =>
        refine (deleteLocked_iff _).trans ⟨fun h => .inr ⟨rfl, .inr h⟩, ?_⟩
        rintro (h | ⟨-, h | h⟩)
        · cases h
        · cases h
        · exact h

end RxqM

/-- **A call leaves the mutex as it was exactly when it meets `MayCall`.** -/
theorem RxqCall.balances_iff (c : RxqCall) : RxqM.Balances c.run ↔ c.MayCall := by
  cases c with
  | send a => exact RxqM.itcSend_iff a
  | create a => exact iff_of_true (RxqM.itcCreateMailbox_balances a) trivial
  | delete a => exact RxqM.itcDeleteMailbox_iff a

/-! ## Runs -/

theorem RxqLocks.step_from {l : RxqLocks} (hfree : ∀ i, l.held i = false) (c : Nat × RxqCall) :
    RxqDisciplined ((c.2.run (.start (l.held c.1))).map fun r =>
      ⟨fun i => if i = c.1 then r.2.held else l.held i, r.2⟩) ↔ c.2.MayCall := by
  rw [← c.2.balances_iff, hfree c.1]
  constructor
  · rintro ⟨l', hl', hbal, -⟩
    cases hcall : c.2.run (.start false) with
    | error fault =>
      rw [hcall] at hl'
      cases hl'
    | ok r =>
      rw [hcall] at hl'
      cases hl'
      exact ⟨r.1, r.2, hcall, hbal⟩
  · rintro ⟨ret, m, hcall, hbal⟩
    refine ⟨_, by rw [hcall]; rfl, hbal, fun i => ?_⟩
    dsimp only
    split
    · exact hbal.held
    · exact hfree i

/-- **The discipline of the rx queue mutexes**: it is kept along the runs whose calls meet
`MayCall`. -/
theorem rxq_discipline_iff (cs : List (Nat × RxqCall)) (w : Except MemFault RxqLocks) :
    Run (Into RxqStep RxqDisciplined) (.ok .init) cs w ↔
      Run (Guarded RxqStep fun _ c => c.2.MayCall) (.ok .init) cs w := by
  refine Run.into_iff_guarded (I := RxqDisciplined) ?_ (fun _ h => h) ?_ ⟨_, rfl, ⟨rfl, rfl, rfl⟩,
    fun _ => rfl⟩
  · rintro _ c _ ⟨l, rfl, -, hfree⟩ hmay ⟨_, ⟨⟩, rfl⟩
    exact (RxqLocks.step_from hfree c).mpr hmay
  · rintro _ c _ ⟨l, rfl, -, hfree⟩ ⟨_, ⟨⟩, rfl⟩ hnext
    exact (RxqLocks.step_from hfree c).mp hnext

/-- `local_send` has no memory for its queue item and `sysvmq_send` takes the message: the sender
unlocks twice and raises `rxq_len` in between. A delete whose transport fails returns with the
mutex. -/
theorem failed_local_send_unlocks_twice :
    RxqM.itcSend ⟨false, .active, [⟨false, false, true⟩, ⟨true, false, true⟩], true⟩ (.start false) =
        .ok (true, ⟨false, 1, 2, true⟩) ∧
      RxqM.itcDeleteMailbox ⟨false, true, false, true, [false], true⟩ (.start false) =
        .ok (false, ⟨true, 2, 1, false⟩) ∧
      ¬ ∀ (c : Nat × RxqCall) w, RxqStep (.ok .init) c w → RxqDisciplined w := by
  refine ⟨rfl, rfl, fun h => ?_⟩
  obtain ⟨l, hl, hbal, -⟩ := h (0, .delete ⟨false, true, false, true, [false], true⟩) _ ⟨_, rfl, rfl⟩
  cases hl
  cases hbal.unlocks

end ItcFramework
