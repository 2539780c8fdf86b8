import ItcFramework.Lib.Counting
import ItcFramework.Transport.SysvshmDelivery

/-!
# The semaphores of the System V shared memory

Calls of `sysvshm_send` in the threads of any number of processes and the rx thread of their
receiver. Every `semop` of a call may fail, the second segment of a large message may not be there,
and the receiver may go and come back: its semaphores are then removed under the calls, which get
`EIDRM` and reconnect. `sysvshm_cl` has one entry for the receiver in each process, which the calls
of all its threads read before each `semop` and in their sections. No semaphore set has the id 0.

* `ShmWorldStep` — one step for each time a call enters or leaves a `semop`, with the critical
  section behind that of the mutex.
* `Balanced` — nobody but the rx thread holds the mutex, credits, lent credits and queued messages
  make up `MAX_SYSVSHM_SLOTS`, and every call has given back what it took and reported what it did.
* `KeepsBalance`, `sysvshm_balanced_iff` — the runs through such states are those in which a
  call that holds a credit gets the mutex and finds room, no other call gets to the section, and
  no call notifies another receiver than the one that has its message.
-/

set_option autoImplicit false

namespace ItcFramework

open ByteImage LinkedChain Transition Counting

/-! ## The system -/

/-- What a call has done so far. `credited` tells of the credit of `m_sem_slot` that it has taken
from the receiver it works on, `locked` and `unlocked` of that one's `m_sem_mutex`, and `notified`
of the receiver that has its message. -/
structure ShmCallOutcome where
  rc : UInt32
  credited : Bool
  locked : Bool
  unlocked : Bool
  enqueued : Bool
  notified : Bool
  deriving DecidableEq, Repr

/-- The entry of `sysvshm_cl` in a process: nothing (`mbox_id_in_itccoord` is 0), the semaphores
and the segment of a receiver that has gone, or those of the present one. -/
inductive ShmContact where
  | gone
  | lost
  | current
  deriving DecidableEq, Repr

/-- The receiver's semaphores are removed. -/
def ShmContact.lose : ShmContact → ShmContact
  | .current => .lost
  | contact => contact

/-- The credit that a call has taken: none, one of the present receiver, or one of a receiver that
has gone. -/
inductive ShmCredit where
  | none
  | held
  | lost
  deriving DecidableEq, Repr

def ShmCredit.lose : ShmCredit → ShmCredit
  | .held => .lost
  | credit => credit

/-- How far a call has come. While it waits, `sleep` tells whether it is in the `semop`, and whether
the semaphore that this one works on has been removed. `lost`: the receiver that has its message has
gone. A call that writes outside its slot, or through the pointer of a segment that is not there, is
`faulted`. -/
inductive ShmCallPhase where
  | notCalled
  | waitSlot (sleep : Option Bool)
  | waitMutex (credit : ShmCredit) (sleep : Option Bool)
  | notify (out : ShmCallOutcome) (lost : Bool)
  | returned (out : ShmCallOutcome)
  | faulted
  deriving DecidableEq, Repr

namespace ShmCallPhase

/-- The call holds a credit of the receiver. -/
def lends : ShmCallPhase → Bool
  | .waitMutex .held _ => true
  | _ => false

/-- The call is about to post the `m_sem_notify` of the receiver that has its message. -/
def notifies : ShmCallPhase → Bool
  | .notify _ false => true
  | _ => false

/-- The receiver's semaphores are removed. -/
def lose : ShmCallPhase → ShmCallPhase
  | .waitSlot sleep => .waitSlot (sleep.map fun _ => true)
  | .waitMutex credit sleep => .waitMutex credit.lose (sleep.map fun _ => true)
  | .notify out _ => .notify out true
  | phase => phase

end ShmCallPhase

/-- The receiver's segment and semaphores, its rx thread, the contacts of the processes and their
calls. `rxCall`: the `itc_send` of the rx thread has come to a `sysvshm_send` that waits for the
mutex of its own section, with or without a credit. -/
structure ShmWorld (ι κ : Type) where
  shm : SysvshmSegment
  semSlot : Nat
  semMutex : Nat
  semNotify : Nat
  rx : ShmRxPhase
  rxCall : Option Bool
  contact : κ → ShmContact
  phase : ι → ShmCallPhase

/-- `segment`: `ftok`, `shmget` and `shmat` of `init_unilimit_sysvshm` succeed; `posts`: the
`semop` that posts succeeds; `reconnects`: `add_sysvshm_cl` succeeds. -/
inductive ShmEvent (ι : Type) where
  | call (i : ι)
  /-- The first call of its process, or the first after a contact was given up. -/
  | connect (i : ι)
  | refuse (i : ι)
  | sleepSlot (i : ι)
  | takeSlot (i : ι)
  | slotFailed (i : ι)
  | slotLost (i : ι) (reconnects : Bool)
  | sleepMutex (i : ι)
  | enter (i : ι) (segment posts : Bool)
  | mutexFailed (i : ι)
  /-- `EIDRM` at the mutex, and nothing to reconnect to. -/
  | mutexGone (i : ι)
  /-- `EIDRM` at the mutex, and the call goes on with the new receiver. -/
  | reenter (i : ι) (segment posts : Bool)
  | notify (i : ι) (posts : Bool)
  | rxWait
  | rxEnter
  | rxPost
  | restart
  deriving DecidableEq, Repr

/-- The critical section. Without its second segment a large message is copied to `NULL` or to
the `-1` that `shmat` gives. -/
def shmSection (e : Endian) (segment : Bool) (shm : SysvshmSegment) (message : ItcMessage) :
    Except MemFault SysvshmEnqueued :=
  if isDynamic (choosePool message.size).1 (choosePool message.size).2 && !segment then
    throw .nullDeref
  else sysvshmEnqueue e ITC_OK shm message

namespace ShmWorld

variable {ι κ : Type}

/-- After `sysvshm_init` of the receiver, with these contacts and calls. -/
def fresh (contact : κ → ShmContact) (phase : ι → ShmCallPhase) : ShmWorld ι κ where
  shm := .init
  semSlot := MAX_SYSVSHM_SLOTS
  semMutex := 1
  semNotify := 0
  rx := .waitNotify
  rxCall := none
  contact := contact
  phase := phase

def init : ShmWorld ι κ := fresh (fun _ => .gone) fun _ => .notCalled

/-- The rx thread leaves its section, or its own `sysvshm_send` waits in it. -/
def received (w : ShmWorld ι κ) (r : SysvshmDequeued) : ShmWorld ι κ :=
  if r.running then { w with shm := r.shm, rx := .postSlot }
  else { w with
    shm := r.shm
    semMutex := w.semMutex - 1
    semSlot := w.semSlot - 1
    rxCall := some (decide (0 < w.semSlot)) }

/-- `remove_sysvshm_cl` and `add_sysvshm_cl`. -/
def reconnect [DecidableEq κ] (w : ShmWorld ι κ) (k : κ) (reconnects : Bool) : ShmWorld ι κ :=
  { w with contact := Function.update w.contact k (if reconnects then .current else .gone) }

variable [DecidableEq ι] (w : ShmWorld ι κ)

def setPhase (i : ι) (phase : ShmCallPhase) : ShmWorld ι κ :=
  { w with phase := Function.update w.phase i phase }

/-- The call returns from a `semop` that fails. -/
def fail (i : ι) (credit : ShmCredit) : ShmWorld ι κ :=
  w.setPhase i
    (.returned ⟨ITC_SYSCALL_ERROR, decide (credit ≠ .none), false, false, false, false⟩)

/-- The call leaves its section, which it has entered with the mutex if `locked`. -/
def leave (i : ι) (credited locked : Bool) (r : SysvshmEnqueued) (posts : Bool) : ShmWorld ι κ :=
  let w := { w with shm := r.shm, semMutex := w.semMutex - locked.toNat }
  if ! r.released then w.setPhase i (.returned ⟨r.rc, credited, locked, false, false, false⟩)
  else if posts then
    { w with semMutex := w.semMutex + 1 }.setPhase i
      (.notify ⟨r.rc, credited, locked, true, true, false⟩ false)
  else
    w.setPhase i
      (.returned ⟨r.rc ||| ITC_SYSCALL_ERROR, credited, locked, false, true, false⟩)

/-- The call returns from `semop(m_sem_notify)`. -/
def report (i : ι) (out : ShmCallOutcome) (lost posts freed : Bool) : ShmWorld ι κ :=
  if posts then
    { w with semNotify := w.semNotify + 1 }.setPhase i
      (.returned { out with rc := if freed then ITC_OK else out.rc, notified := !lost })
  else w.setPhase i (.returned { out with rc := out.rc ||| ITC_SYSCALL_ERROR })

end ShmWorld

/-- The steps of the system; `proc i` is the process of the call `i`. Through a contact that does
not lead to the present receiver no `semop` succeeds. -/
inductive ShmWorldStep {ι κ : Type} [DecidableEq ι] [DecidableEq κ] (e : Endian) (a : Allocator)
    (proc : ι → κ) (msg : ι → ShmMessage) (w : ShmWorld ι κ) :
    ShmEvent ι → ShmWorld ι κ → Prop where
  | call {i : ι} (hi : w.phase i = .notCalled) (hcontact : w.contact (proc i) ≠ .gone) :
      ShmWorldStep e a proc msg w (.call i) (w.setPhase i (.waitSlot none))
  | connect {i : ι} (hi : w.phase i = .notCalled) (hcontact : w.contact (proc i) = .gone) :
      ShmWorldStep e a proc msg w (.connect i)
        ((w.reconnect (proc i) true).setPhase i (.waitSlot none))
  | refuse {i : ι} (hi : w.phase i = .notCalled) (hcontact : w.contact (proc i) = .gone) :
      ShmWorldStep e a proc msg w (.refuse i)
        (w.setPhase i (.returned ⟨ITC_QUEUE_NULL, false, false, false, false, false⟩))
  | sleepSlot {i : ι} (hi : w.phase i = .waitSlot none) :
      ShmWorldStep e a proc msg w (.sleepSlot i)
        (w.setPhase i (.waitSlot (some (decide (w.contact (proc i) ≠ .current)))))
  | takeSlot {i : ι} (hi : w.phase i = .waitSlot (some false)) (hslot : 0 < w.semSlot) :
      ShmWorldStep e a proc msg w (.takeSlot i)
        ({ w with semSlot := w.semSlot - 1 }.setPhase i (.waitMutex .held none))
  | slotFailed {i : ι} {lost : Bool} (hi : w.phase i = .waitSlot (some lost)) :
      ShmWorldStep e a proc msg w (.slotFailed i) (w.fail i .none)
  | slotLost {i : ι} (reconnects : Bool) (hi : w.phase i = .waitSlot (some true)) :
      ShmWorldStep e a proc msg w (.slotLost i reconnects)
        (if reconnects then (w.reconnect (proc i) true).setPhase i (.waitMutex .none none)
          else (w.reconnect (proc i) false).fail i .none)
  | sleepMutex {i : ι} {credit : ShmCredit} (hi : w.phase i = .waitMutex credit none) :
      ShmWorldStep e a proc msg w (.sleepMutex i)
        (w.setPhase i (.waitMutex credit (some (decide (w.contact (proc i) ≠ .current)))))
  | enter {i : ι} {credit : ShmCredit} {segment posts : Bool} {r : SysvshmEnqueued}
      (hi : w.phase i = .waitMutex credit (some false)) (hmutex : 0 < w.semMutex)
      (hcontact : w.contact (proc i) = .current)
      (hr : shmSection e segment w.shm (msg i).msg = .ok r) :
      ShmWorldStep e a proc msg w (.enter i segment posts)
        (w.leave i (decide (credit = .held)) true r posts)
  | enterFault {i : ι} {credit : ShmCredit} {segment posts : Bool}
      (hi : w.phase i = .waitMutex credit (some false)) (hmutex : 0 < w.semMutex)
      (hfault : w.contact (proc i) ≠ .current ∨
        ∃ fault, shmSection e segment w.shm (msg i).msg = .error fault) :
      ShmWorldStep e a proc msg w (.enter i segment posts)
        ({ w with semMutex := w.semMutex - 1 }.setPhase i .faulted)
  | mutexFailed {i : ι} {credit : ShmCredit} {lost : Bool}
      (hi : w.phase i = .waitMutex credit (some lost)) :
      ShmWorldStep e a proc msg w (.mutexFailed i) (w.fail i credit)
  | mutexGone {i : ι} {credit : ShmCredit} (hi : w.phase i = .waitMutex credit (some true)) :
      ShmWorldStep e a proc msg w (.mutexGone i) ((w.reconnect (proc i) false).fail i credit)
  | reenter {i : ι} {credit : ShmCredit} {segment posts : Bool} {r : SysvshmEnqueued}
      (hi : w.phase i = .waitMutex credit (some true))
      (hr : shmSection e segment w.shm (msg i).msg = .ok r) :
      ShmWorldStep e a proc msg w (.reenter i segment posts)
        ((w.reconnect (proc i) true).leave i false false r posts)
  | reenterFault {i : ι} {credit : ShmCredit} {segment posts : Bool} {fault : MemFault}
      (hi : w.phase i = .waitMutex credit (some true))
      (hr : shmSection e segment w.shm (msg i).msg = .error fault) :
      ShmWorldStep e a proc msg w (.reenter i segment posts)
        ((w.reconnect (proc i) true).setPhase i .faulted)
  | notify {i : ι} {out : ShmCallOutcome} {lost freed : Bool} (posts : Bool)
      (hi : w.phase i = .notify out lost)
      (hcontact : posts = true → w.contact (proc i) = .current)
      (hfree : itcFreeAllowed (msg i).msg = .ok freed) :
      ShmWorldStep e a proc msg w (.notify i posts) (w.report i out lost posts freed)
  | rxWait (hrx : w.rx = .waitNotify) (hnotify : 0 < w.semNotify) :
      ShmWorldStep e a proc msg w .rxWait
        { w with semNotify := w.semNotify - 1, rx := .waitMutex }
  | rxEnter {hand : MboxId → HandOver} {r : SysvshmDequeued} (hrx : w.rx = .waitMutex)
      (hcall : w.rxCall = none) (hmutex : 0 < w.semMutex)
      (hr : sysvshmDequeue e a hand w.shm = .ok r) :
      ShmWorldStep e a proc msg w .rxEnter (w.received r)
  | rxPost (hrx : w.rx = .postSlot) :
      ShmWorldStep e a proc msg w .rxPost
        { w with semSlot := w.semSlot + 1, rx := .waitNotify }
  | restart : ShmWorldStep e a proc msg w .restart
      (.fresh (fun k => (w.contact k).lose) fun i => (w.phase i).lose)

/-! ## Balance -/

/-- What a call that has returned owes to nobody, and its result code. -/
structure ShmCallOutcome.Honest (out : ShmCallOutcome) : Prop where
  mutex : out.unlocked = out.locked
  credit : out.enqueued = out.credited
  rc : out.rc = ITC_OK ↔ out.enqueued = true ∧ out.notified = true

namespace ShmWorld

variable {ι κ : Type}

/-- The segment holds a queue of `n` messages, in the slots that are in use. -/
def Queued (w : ShmWorld ι κ) (n : Nat) : Prop :=
  ∃ l, Threaded w.shm.head w.shm.tail w.shm.next l ∧
    (∀ r, (w.shm.slots r).isInUse = true ↔ r ∈ l) ∧ l.length = n

/-- The message that the rx thread has taken out without having posted `m_sem_slot` yet. -/
def posting (w : ShmWorld ι κ) : Nat := if w.rx = .postSlot then 1 else 0

/-- The rx thread waits in its section for its own mutex. -/
def rxHolds (w : ShmWorld ι κ) : Nat := w.rxCall.isSome.toNat

/-- The credit that the rx thread has taken for a message of its own. -/
def rxLent (w : ShmWorld ι κ) : Nat := (w.rxCall.getD false).toNat

/-- Nobody but the rx thread holds the mutex between two steps; what is left of the credits is lent
to calls that wait for the mutex or to queued messages; and the calls that have left their section
have given back what they took, and those that have returned report it. -/
structure Balanced (w : ShmWorld ι κ) : Prop where
  mutex : w.semMutex + w.rxHolds = 1
  credits : ∃ lent queued, Counts (fun i => (w.phase i).lends) lent ∧ w.Queued queued ∧
    w.semSlot + (lent + w.rxLent) + queued + w.posting = MAX_SYSVSHM_SLOTS
  left : ∀ i out lost, w.phase i = .notify out lost →
    out.unlocked = out.locked ∧ out.enqueued = out.credited
  returned : ∀ i out, w.phase i = .returned out → out.Honest
  faulted : ∀ i, w.phase i ≠ .faulted

end ShmWorld

/-- A call gets the mutex with a credit of the receiver and the contact that leads to it, finds
room, the second segment if it needs one, and can release the mutex; a call that does not get the
mutex has taken no credit; none goes on after `EIDRM` at the mutex, and none notifies a receiver
that came after the one that has its message. -/
def KeepsBalance {ι κ : Type} (proc : ι → κ) (msg : ι → ShmMessage) (w : ShmWorld ι κ) :
    ShmEvent ι → Prop
  | .enter i segment posts => (∃ sleep, w.phase i = .waitMutex .held sleep) ∧
      w.contact (proc i) = .current ∧ w.shm.HasRoom (msg i).msg.size ∧
      (isDynamic (choosePool (msg i).msg.size).1 (choosePool (msg i).msg.size).2 = true →
        segment = true) ∧ posts = true
  | .mutexFailed i | .mutexGone i =>
      ∀ credit sleep, w.phase i = .waitMutex credit sleep → credit = .none
  | .reenter _ _ _ => False
  | .notify i posts => posts = true → ∀ out, w.phase i ≠ .notify out true
  | _ => True

/-! ## The section -/

section Section

variable {e : Endian} {shm : SysvshmSegment} {q : List (SysvshmPoolSlot × ShmMessage)}
  {segment : Bool} {m : ShmMessage} {r : SysvshmEnqueued}

theorem shmSection_ok (hr : shmSection e segment shm m.msg = .ok r) :
    sysvshmEnqueue e ITC_OK shm m.msg = .ok r ∧
      (isDynamic (choosePool m.msg.size).1 (choosePool m.msg.size).2 = true → segment = true) := by
  unfold shmSection at hr
  split at hr
  · cases hr
  · rename_i hsegment
    refine ⟨hr, fun hdyn => ?_⟩
    cases segment with
    | true => rfl
    | false => exact absurd (by rw [hdyn]; rfl) hsegment

theorem shmSection_room (h : shm.Holds e q) (hroom : shm.HasRoom m.msg.size)
    (hsegment : isDynamic (choosePool m.msg.size).1 (choosePool m.msg.size).2 = true →
      segment = true) :
    ∃ shm' slot, shmSection e segment shm m.msg =
        .ok { shm := shm', rc := ITC_OK, released := true } ∧ shm'.Holds e (q ++ [(slot, m)]) := by
  obtain ⟨shm', slot, henq, hholds⟩ := sysvshmEnqueue_spec h m ITC_OK hroom
  refine ⟨shm', slot, ?_, hholds⟩
  unfold shmSection
  rw [if_neg, henq]
  rw [Bool.and_eq_true]
  rintro ⟨hdyn, hnot⟩
  rw [hsegment hdyn] at hnot
  cases hnot

/-- **A section that finds no room** either keeps the mutex and changes nothing, or puts the
message into `slot_unlimit` once more; in both cases no other slot gets in use. -/
theorem sysvshmEnqueue_noRoom (h : shm.Holds e q) (hno : ¬ shm.HasRoom m.msg.size)
    (hr : sysvshmEnqueue e ITC_OK shm m.msg = .ok r) :
    r.rc = ITC_OK ∧ ∀ s, (r.shm.slots s).isInUse = true ↔ (shm.slots s).isInUse = true := by
  unfold SysvshmSegment.HasRoom at hno
  by_cases hbig : 16384 ≤ m.msg.size.toNat + ITC_HEADER_SIZE + 1
  · have hdyn := isDynamic_of_large hbig
    rw [if_pos hbig, Bool.not_eq_false] at hno
    unfold sysvshmEnqueue initUnilimitSysvshm at hr
    simp only [hdyn, if_true] at hr
    cases hget : unlimitShmget shm.unlimit true (choosePool m.msg.size).2 with
    | none =>
      simp only [hget] at hr
      cases hr
    | some seg =>
      simp only [hget, txText_ok e m.wellFormed] at hr
      obtain ⟨text, -, hr⟩ := bind_eq_ok hr
      obtain ⟨seg', -, hr⟩ := bind_eq_ok hr
      cases hr
      refine ⟨rfl, fun s => ?_⟩
      show ((((shm.resetUnlimit _).enqueueSlot .unlimit).slots s).isInUse = true ↔ _)
      rw [SysvshmSegment.enqueueSlot_isInUse]
      unfold SysvshmSegment.resetUnlimit SysvshmSegment.setSlot
      by_cases hs : s = .unlimit
      · simp [hs, hno]
      · simp [hs]
  · have hdyn := isDynamic_of_small hbig
    rw [if_neg hbig] at hno
    unfold sysvshmEnqueue at hr
    simp only [hdyn, Bool.false_eq_true, if_false] at hr
    cases hfree : shm.freeSlot (choosePool m.msg.size).1 with
    | none =>
      rw [hfree] at hr
      cases hr
      exact ⟨rfl, fun _ => Iff.rfl⟩
    | some i =>
      rw [hfree] at hr
      unfold SysvshmSegment.freeSlot at hfree
      have huse := List.find?_some hfree
      rw [Bool.and_eq_true, Bool.not_eq_true'] at huse
      have hi := List.mem_range.mp (List.mem_of_find?_eq_some hfree)
      -- only `slot_unlimit` can look free, and nothing fits there
      have hpool : (choosePool m.msg.size).1 = .poolUnlimit := by
        by_contra hp
        exact hno ⟨hp, i, hi, huse.1⟩
      have hlen : (shm.data ⟨.poolUnlimit, i⟩).length = 0 := h.dataSize _
      have himage := image_length_of_wellFormed e m.wellFormed
      simp only [hpool, txText_ok e m.wellFormed, SysvshmSegment.enqueueSlot_data] at hr
      obtain ⟨text, htext, hr⟩ := bind_eq_ok hr
      cases htext
      obtain ⟨block, hblock, -⟩ := bind_eq_ok hr
      unfold storeBytes at hblock
      rw [if_neg (by omega)] at hblock
      cases hblock

end Section

/-! ## The invariant -/

/-- What a call leaves that has met `KeepsBalance` so far. -/
def ShmCallPhase.Ok : ShmCallPhase → Prop
  | .notify out _ => out = ⟨ITC_OK, true, true, true, true, false⟩
  | .returned out => out.Honest
  | .faulted => False
  | _ => True

theorem ShmCallOutcome.Honest.failed {rc : UInt32} (hrc : rc ≠ ITC_OK) :
    ShmCallOutcome.Honest ⟨rc, false, false, false, false, false⟩ :=
  ⟨rfl, rfl, iff_of_false hrc fun h => Bool.false_ne_true h.1⟩

namespace ShmWorld

variable {ι κ : Type}

/-- The message that the rx thread has been woken up for. -/
def waking (w : ShmWorld ι κ) : Nat := if w.rx = .waitMutex then 1 else 0

structure Inv (e : Endian) (w : ShmWorld ι κ) (q : List (SysvshmPoolSlot × ShmMessage))
    (lent notifying : Nat) : Prop where
  holds : w.shm.Holds e q
  lends : Counts (fun i => (w.phase i).lends) lent
  notifies : Counts (fun i => (w.phase i).notifies) notifying
  credits : w.semSlot + (lent + w.rxLent) + q.length + w.posting = MAX_SYSVSHM_SLOTS
  notified : w.semNotify + notifying + w.waking ≤ q.length
  mutex : w.semMutex + w.rxHolds = 1
  calls : ∀ i, (w.phase i).Ok

variable {e : Endian} {a : Allocator} {proc : ι → κ} {msg : ι → ShmMessage} {w w' : ShmWorld ι κ}
  {q : List (SysvshmPoolSlot × ShmMessage)} {lent notifying : Nat}

theorem Inv.fresh (e : Endian) {contact : κ → ShmContact} {phase : ι → ShmCallPhase}
    (hlends : ∀ i, (phase i).lends = false) (hnotifies : ∀ i, (phase i).notifies = false)
    (hok : ∀ i, (phase i).Ok) : Inv e (.fresh contact phase) [] 0 0 where
  holds := .init e
  lends := .zero hlends
  notifies := .zero hnotifies
  credits := rfl
  notified := Nat.le_refl 0
  mutex := rfl
  calls := hok

theorem Inv.init (e : Endian) : Inv e (init : ShmWorld ι κ) [] 0 0 :=
  .fresh e (fun _ => rfl) (fun _ => rfl) fun _ => trivial

theorem Inv.queued (h : Inv e w q lent notifying) : w.Queued q.length :=
  ⟨q.map Prod.fst, h.holds.threaded, h.holds.inUse, List.length_map _⟩

theorem Inv.balanced (h : Inv e w q lent notifying) : w.Balanced where
  mutex := h.mutex
  credits := ⟨lent, q.length, h.lends, h.queued, h.credits⟩
  left i out lost hi := by
    have hok := h.calls i
    rw [hi] at hok
    obtain rfl : out = _ := hok
    exact ⟨rfl, rfl⟩
  returned i out hi := by
    have hok := h.calls i
    rw [hi] at hok
    exact hok
  faulted i hi := by
    have hok := h.calls i
    rw [hi] at hok
    exact hok

/-- The slots in use tell how many messages are queued. -/
theorem Queued.length_eq {w : ShmWorld ι κ} {n : Nat} (h : w.Queued n)
    (hq : (q.map Prod.fst).Nodup)
    (hslots : ∀ r, (w.shm.slots r).isInUse = true ↔ r ∈ q.map Prod.fst) : n = q.length := by
  obtain ⟨l, hthreaded, huse, rfl⟩ := h
  have hl := Counts.of_nodup hthreaded.nodup huse
  have hq' := Counts.of_nodup hq hslots
  rw [List.length_map] at hq'
  exact hl.unique hq'

/-- The receiver has gone and come back. -/
theorem Inv.restart (h : Inv e w q lent notifying) :
    Inv e (.fresh (fun k => (w.contact k).lose) fun i => (w.phase i).lose) [] 0 0 := by
  apply Inv.fresh
  · intro i
    cases w.phase i with
    | waitMutex credit sleep => cases credit <;> rfl
    | _ => rfl
  · intro i
    cases w.phase i with
    | _ => rfl
  · intro i
    have hok := h.calls i
    cases hi : w.phase i with
    | notify out lost =>
      rw [hi] at hok
      exact hok
    | returned out =>
      rw [hi] at hok
      exact hok
    | faulted =>
      rw [hi] at hok
      exact hok
    | _ => trivial

/-- The rx thread wakes up. -/
theorem Inv.rxWait (h : Inv e w q lent notifying) (hrx : w.rx = .waitNotify)
    (hnotify : 0 < w.semNotify) :
    Inv e { w with semNotify := w.semNotify - 1, rx := .waitMutex } q lent notifying where
  holds := h.holds
  lends := h.lends
  notifies := h.notifies
  credits := by
    have hsum := h.credits
    unfold posting at hsum
    rw [hrx, if_neg (by decide)] at hsum
    exact hsum
  notified := by
    have hwoken := h.notified
    unfold waking at hwoken
    rw [hrx, if_neg (by decide)] at hwoken
    show w.semNotify - 1 + notifying + 1 ≤ q.length
    omega
  mutex := h.mutex
  calls := h.calls

/-- An awake rx thread takes the first message out, or waits for itself with that one queued. -/
theorem Inv.rxEnter (h : Inv e w q lent notifying) {hand : MboxId → HandOver}
    {r : SysvshmDequeued} (hrx : w.rx = .waitMutex) (hcall : w.rxCall = none)
    (hr : sysvshmDequeue e a hand w.shm = .ok r) : ∃ q', Inv e (w.received r) q' lent notifying := by
  have hsum := h.credits
  unfold posting rxLent at hsum
  rw [hrx, if_neg (by decide), hcall] at hsum
  change w.semSlot + (lent + 0) + q.length + 0 = _ at hsum
  have hwoken := h.notified
  unfold waking at hwoken
  rw [hrx, if_pos rfl] at hwoken
  have hfree := h.mutex
  unfold rxHolds at hfree
  rw [hcall] at hfree
  change w.semMutex + 0 = 1 at hfree
  cases q with
  | nil => cases hwoken
  | cons p q =>
    rw [List.length_cons] at hsum hwoken
    obtain ⟨shm', hholds, hrun⟩ := sysvshmDequeue_passes a h.holds
    rw [hrun hand] at hr
    unfold received
    split at hr
    · cases hr
      rw [if_pos rfl]
      refine ⟨q, hholds, h.lends, h.notifies, ?_, ?_, h.mutex, h.calls⟩
      · unfold rxLent
        rw [hcall]
        show w.semSlot + (lent + 0) + q.length + 1 = _
        omega
      · show w.semNotify + notifying + 0 ≤ q.length
        omega
    · cases hr
      rw [if_neg Bool.false_ne_true]
      refine ⟨_, h.holds, h.lends, h.notifies, ?_, h.notified, ?_, h.calls⟩
      · have hown : (decide (0 < w.semSlot)).toNat + (w.semSlot - 1) = w.semSlot := by
          by_cases hslot : 0 < w.semSlot
          · rw [decide_eq_true hslot, Bool.toNat_true]
            omega
          · rw [decide_eq_false hslot, Bool.toNat_false]
            omega
        unfold posting
        rw [List.length_cons, hrx, if_neg (by decide)]
        show w.semSlot - 1 + (lent + (decide (0 < w.semSlot)).toNat) + (q.length + 1) + 0 = _
        omega
      · show w.semMutex - 1 + 1 = 1
        omega

/-- The rx thread gives the credit of that message back. -/
theorem Inv.rxPost (h : Inv e w q lent notifying) (hrx : w.rx = .postSlot) :
    Inv e { w with semSlot := w.semSlot + 1, rx := .waitNotify } q lent notifying where
  holds := h.holds
  lends := h.lends
  notifies := h.notifies
  credits := by
    have hsum := h.credits
    unfold posting at hsum
    rw [hrx, if_pos rfl] at hsum
    show w.semSlot + 1 + (lent + w.rxLent) + q.length + 0 = _
    omega
  notified := by
    have hwoken := h.notified
    unfold waking at hwoken
    rw [hrx, if_neg (by decide)] at hwoken
    exact hwoken
  mutex := h.mutex
  calls := h.calls

variable [DecidableEq ι]

theorem setPhase_self (w : ShmWorld ι κ) (i : ι) (p : ShmCallPhase) :
    (w.setPhase i p).phase i = p := Function.update_self ..

theorem setPhase_ne (w : ShmWorld ι κ) {i j : ι} (p : ShmCallPhase) (hj : j ≠ i) :
    (w.setPhase i p).phase j = w.phase j := Function.update_of_ne hj ..

/-- **One call goes on**, and what it takes or gives back the semaphores and the queue show; the
contacts do not matter. -/
theorem Inv.move (h : Inv e w q lent notifying) {i : ι} {p : ShmCallPhase} (hp : p.Ok)
    {shm : SysvshmSegment} {q' : List (SysvshmPoolSlot × ShmMessage)} {semSlot semNotify : Nat}
    {contact : κ → ShmContact} (hholds : shm.Holds e q')
    (hcredits : semSlot + p.lends.toNat + q'.length =
      w.semSlot + (w.phase i).lends.toNat + q.length)
    (hnotified : semNotify + p.notifies.toNat + q.length ≤
      w.semNotify + (w.phase i).notifies.toNat + q'.length) :
    ∃ lent' notifying',
      Inv e ({ w with shm, semSlot, semNotify, contact }.setPhase i p) q' lent' notifying' := by
  have hself := setPhase_self ({ w with shm, semSlot, semNotify, contact }) i p
  have hframe : ∀ j, j ≠ i →
      (({ w with shm, semSlot, semNotify, contact } : ShmWorld ι κ).setPhase i p).phase j =
        w.phase j :=
    fun j hj => setPhase_ne _ _ hj
  have hl := fun j hj => congrArg ShmCallPhase.lends (hframe j hj)
  have hn := fun j hj => congrArg ShmCallPhase.notifies (hframe j hj)
  obtain ⟨lent', hlent, hlent'⟩ := h.lends.change hl
  obtain ⟨ntf', hntf, hntf'⟩ := h.notifies.change hn
  simp only [hself] at hlent' hntf'
  have hsum := h.credits
  have hwoken := h.notified
  refine ⟨lent', ntf', hholds, hlent, hntf, ?_, ?_, h.mutex, fun j => ?_⟩
  · show semSlot + (lent' + w.rxLent) + q'.length + w.posting = _
    omega
  · show semNotify + ntf' + w.waking ≤ q'.length
    omega
  · by_cases hj : j = i
    · rw [hj, hself]
      exact hp
    · rw [hframe j hj]
      exact h.calls j

/-- The call takes and gives back nothing. -/
theorem Inv.setPhase (h : Inv e w q lent notifying) {i : ι} {p : ShmCallPhase}
    {contact : κ → ShmContact} (hp : p.Ok) (hlends : p.lends = (w.phase i).lends)
    (hnotifies : p.notifies = (w.phase i).notifies) :
    ∃ lent' notifying', Inv e ({ w with contact }.setPhase i p) q lent' notifying' :=
  h.move hp h.holds (by rw [hlends]) (by rw [hnotifies])

/-- A call that does not get to its section and has no credit. -/
theorem Inv.fail (h : Inv e w q lent notifying) {i : ι} {contact : κ → ShmContact}
    (hlends : (w.phase i).lends = false) (hnotifies : (w.phase i).notifies = false) :
    ∃ lent' notifying', Inv e ({ w with contact }.fail i .none) q lent' notifying' := by
  apply h.setPhase
  · exact ShmCallOutcome.Honest.failed (by decide)
  · exact hlends.symm
  · exact hnotifies.symm

/-- A call with a credit puts its message into the room that it finds. -/
theorem Inv.enter (h : Inv e w q lent notifying) {i : ι} {segment : Bool} {sleep : Option Bool}
    {r : SysvshmEnqueued} (hi : w.phase i = .waitMutex .held sleep) (hmutex : 0 < w.semMutex)
    (hroom : w.shm.HasRoom (msg i).msg.size)
    (hsegment : isDynamic (choosePool (msg i).msg.size).1 (choosePool (msg i).msg.size).2 = true →
      segment = true)
    (hr : shmSection e segment w.shm (msg i).msg = .ok r) :
    ∃ q' lent' notifying', Inv e (w.leave i true true r true) q' lent' notifying' := by
  obtain ⟨shm', slot, hrun, hholds⟩ := shmSection_room h.holds hroom hsegment
  rw [hrun] at hr
  cases hr
  have hrestored : w.semMutex - 1 + 1 = w.semMutex := by omega
  have hleave : w.leave i true true { shm := shm', rc := ITC_OK, released := true } true =
      ({ w with shm := shm' }).setPhase i (.notify ⟨ITC_OK, true, true, true, true, false⟩ false) := by
    unfold leave
    simp only [Bool.not_true, Bool.false_eq_true, if_false, if_true, Bool.toNat_true, hrestored]
  rw [hleave]
  refine ⟨_, h.move ?_ hholds ?_ ?_⟩
  · show _ = _
    rfl
  · rw [hi, List.length_append]
    show w.semSlot + 0 + (q.length + 1) = w.semSlot + 1 + q.length
    omega
  · rw [hi, List.length_append]
    show w.semNotify + 1 + q.length ≤ w.semNotify + 0 + (q.length + 1)
    omega

/-- A call posts the `m_sem_notify` of the receiver that has its message, or finds that it cannot
post. -/
theorem Inv.report (h : Inv e w q lent notifying) {i : ι} {out : ShmCallOutcome}
    {lost posts freed : Bool} (hi : w.phase i = .notify out lost)
    (hlost : posts = true → lost = false) (hfree : itcFreeAllowed (msg i).msg = .ok freed) :
    ∃ lent' notifying', Inv e (w.report i out lost posts freed) q lent' notifying' := by
  have hout := h.calls i
  rw [hi] at hout
  obtain rfl : out = _ := hout
  rw [itcFreeAllowed_user] at hfree
  cases hfree
  unfold ShmWorld.report
  cases posts with
  | true =>
    obtain rfl := hlost rfl
    rw [if_pos rfl]
    refine h.move ?_ h.holds ?_ ?_
    · exact ⟨rfl, rfl, iff_of_true rfl ⟨rfl, rfl⟩⟩
    · rw [hi]
      rfl
    · rw [hi]
      exact Nat.le_refl _
  | false =>
    rw [if_neg Bool.false_ne_true]
    refine h.move ?_ h.holds ?_ ?_
    · exact ⟨rfl, rfl, iff_of_false (by decide) fun hn => Bool.false_ne_true hn.2⟩
    · rw [hi]
      rfl
    · show w.semNotify + 0 + q.length ≤ w.semNotify + (w.phase i).notifies.toNat + q.length
      omega

/-- **Every step that meets `KeepsBalance` keeps the invariant.** -/
theorem Inv.step [DecidableEq κ] (h : Inv e w q lent notifying) {act : ShmEvent ι}
    (hkeeps : KeepsBalance proc msg w act) (hstep : ShmWorldStep e a proc msg w act w') :
    ∃ q' lent' notifying', Inv e w' q' lent' notifying' := by
  cases hstep with
  | call hi _ => exact ⟨q, h.setPhase trivial (by rw [hi]; rfl) (by rw [hi]; rfl)⟩
  | connect hi _ => exact ⟨q, h.setPhase trivial (by rw [hi]; rfl) (by rw [hi]; rfl)⟩
  | refuse hi _ =>
    have hhonest := ShmCallOutcome.Honest.failed (show ITC_QUEUE_NULL ≠ ITC_OK by decide)
    exact ⟨q, h.setPhase hhonest (by rw [hi]; rfl) (by rw [hi]; rfl)⟩
  | sleepSlot hi => exact ⟨q, h.setPhase trivial (by rw [hi]; rfl) (by rw [hi]; rfl)⟩
  | takeSlot hi hslot =>
    refine ⟨q, h.move ?_ h.holds ?_ ?_⟩
    · trivial
    · rw [hi]
      show w.semSlot - 1 + 1 + q.length = w.semSlot + 0 + q.length
      omega
    · rw [hi]
      rfl
  | slotFailed hi => exact ⟨q, h.fail (by rw [hi]; rfl) (by rw [hi]; rfl)⟩
  | slotLost reconnects hi =>
    cases reconnects with
    | true => exact ⟨q, h.setPhase trivial (by rw [hi]; rfl) (by rw [hi]; rfl)⟩
    | false => exact ⟨q, h.fail (by rw [hi]; rfl) (by rw [hi]; rfl)⟩
  | sleepMutex hi =>
    refine ⟨q, h.setPhase trivial ?_ (by rw [hi]; rfl)⟩
    rw [hi]
    rename_i credit
    cases credit <;> rfl
  | enter hi hmutex _ hr =>
    obtain ⟨⟨sleep, hcredit⟩, -, hroom, hsegment, rfl⟩ := hkeeps
    rw [hi] at hcredit
    cases hcredit
    exact h.enter hi hmutex hroom hsegment hr
  | enterFault hi _ hfault =>
    obtain ⟨-, hcontact, hroom, hsegment, -⟩ := hkeeps
    obtain ⟨shm', slot, hrun, -⟩ := shmSection_room h.holds hroom hsegment
    rcases hfault with hgone | ⟨fault, hfault⟩
    · exact absurd hcontact hgone
    · rw [hrun] at hfault
      cases hfault
  | mutexFailed hi =>
    obtain rfl := hkeeps _ _ hi
    exact ⟨q, h.fail (by rw [hi]; rfl) (by rw [hi]; rfl)⟩
  | mutexGone hi =>
    obtain rfl := hkeeps _ _ hi
    exact ⟨q, h.fail (by rw [hi]; rfl) (by rw [hi]; rfl)⟩
  | reenter => exact hkeeps.elim
  | reenterFault => exact hkeeps.elim
  | @notify i out lost freed posts hi _ hfree =>
    refine ⟨q, h.report hi (fun hposts => ?_) hfree⟩
    cases lost with
    | false => rfl
    | true => exact absurd hi (hkeeps hposts out)
  | rxWait hrx hnotify => exact ⟨q, lent, notifying, h.rxWait hrx hnotify⟩
  | rxEnter hrx hcall _ hr =>
    obtain ⟨q', hinv⟩ := h.rxEnter hrx hcall hr
    exact ⟨q', lent, notifying, hinv⟩
  | rxPost hrx => exact ⟨q, lent, notifying, h.rxPost hrx⟩
  | restart => exact ⟨[], 0, 0, h.restart⟩

/-! ## What breaks the balance -/

/-- The section itself never reports an error. -/
theorem sysvshmEnqueue_rc {shm : SysvshmSegment} {m : ShmMessage} {r : SysvshmEnqueued}
    (h : shm.Holds e q) (hr : sysvshmEnqueue e ITC_OK shm m.msg = .ok r) : r.rc = ITC_OK := by
  by_cases hroom : shm.HasRoom m.msg.size
  · obtain ⟨shm', slot, hrun, -⟩ := sysvshmEnqueue_spec h m ITC_OK hroom
    rw [hrun] at hr
    cases hr
    rfl
  · exact (sysvshmEnqueue_noRoom h hroom hr).1

/-- A call that has entered its section releases the mutex if the state is balanced. -/
theorem Balanced.released {i : ι} {credited posts : Bool} {r : SysvshmEnqueued}
    (hmutex : 0 < w.semMutex) (hholder : w.semMutex + w.rxHolds = 1)
    (h : (w.leave i credited true r posts).Balanced) : r.released = true ∧ posts = true := by
  have hfree := h.mutex
  unfold leave at hfree
  cases hreleased : r.released with
  | false =>
    rw [hreleased, Bool.not_false, if_pos rfl] at hfree
    change w.semMutex - 1 + w.rxHolds = 1 at hfree
    omega
  | true =>
    rw [hreleased, Bool.not_true, if_neg Bool.false_ne_true] at hfree
    cases posts with
    | true => exact ⟨rfl, rfl⟩
    | false =>
      rw [if_neg Bool.false_ne_true] at hfree
      change w.semMutex - 1 + w.rxHolds = 1 at hfree
      omega

/-- Without room, a call takes a credit out of the system. -/
theorem Inv.room (h : Inv e w q lent notifying) {i : ι} {sleep : Option Bool}
    {r : SysvshmEnqueued} {p : ShmCallPhase} {semMutex : Nat}
    (hi : w.phase i = .waitMutex .held sleep)
    (hr : sysvshmEnqueue e ITC_OK w.shm (msg i).msg = .ok r) (hp : p.lends = false)
    (hbal : ({ w with shm := r.shm, semMutex }.setPhase i p).Balanced) :
    w.shm.HasRoom (msg i).msg.size := by
  by_contra hno
  obtain ⟨lent', queued', hlent', hqueued', hsum'⟩ := hbal.credits
  have hsum := h.credits
  have hslots := (sysvshmEnqueue_noRoom h.holds hno hr).2
  have hlen := hqueued'.length_eq h.holds.threaded.nodup fun s => (hslots s).trans (h.holds.inUse s)
  have hframe : ∀ j, j ≠ i →
      (({ w with shm := r.shm, semMutex } : ShmWorld ι κ).setPhase i p).phase j = w.phase j :=
    fun j hj => setPhase_ne _ _ hj
  obtain ⟨left, hleft, hcount⟩ :=
    h.lends.change fun j hj => congrArg ShmCallPhase.lends (hframe j hj)
  rw [setPhase_self, hp, hi] at hcount
  have heq := hlent'.unique hleft
  change left + 1 = lent + 0 at hcount
  change w.semSlot + (lent' + w.rxLent) + queued' + w.posting = _ at hsum'
  omega

/-- A call that enters its section with the mutex and leaves a balanced state. -/
theorem Inv.entered (h : Inv e w q lent notifying) {i : ι} {credit : ShmCredit}
    {sleep : Option Bool} {segment posts : Bool} {r : SysvshmEnqueued}
    (hi : w.phase i = .waitMutex credit sleep) (hmutex : 0 < w.semMutex)
    (hcontact : w.contact (proc i) = .current)
    (hr : shmSection e segment w.shm (msg i).msg = .ok r)
    (hbal : (w.leave i (decide (credit = .held)) true r posts).Balanced) :
    KeepsBalance proc msg w (.enter i segment posts) := by
  obtain ⟨henq, hsegment⟩ := shmSection_ok hr
  obtain ⟨hreleased, rfl⟩ := hbal.released hmutex h.mutex
  unfold leave at hbal
  rw [hreleased, Bool.not_true, if_neg Bool.false_ne_true, if_pos rfl] at hbal
  have hleft := hbal.left i _ false (setPhase_self _ _ _)
  obtain rfl : credit = .held := of_decide_eq_true hleft.2.symm
  exact ⟨⟨sleep, hi⟩, hcontact, h.room hi henq rfl hbal, hsegment, rfl⟩

/-- No call that goes on without the mutex leaves a balanced state. -/
theorem Inv.not_reentered (h : Inv e w q lent notifying) {i : ι} {segment posts : Bool}
    {contact : κ → ShmContact} {r : SysvshmEnqueued}
    (hr : shmSection e segment w.shm (msg i).msg = .ok r) :
    ¬ ({ w with contact }.leave i false false r posts).Balanced := by
  intro hbal
  have hrc := sysvshmEnqueue_rc h.holds (shmSection_ok hr).1
  unfold leave at hbal
  cases hreleased : r.released with
  | false =>
    rw [hreleased, Bool.not_false, if_pos rfl] at hbal
    have hhonest := hbal.returned i _ (setPhase_self _ _ _)
    exact Bool.false_ne_true (hhonest.rc.mp hrc).1
  | true =>
    rw [hreleased, Bool.not_true, if_neg Bool.false_ne_true] at hbal
    cases posts with
    | true =>
      rw [if_pos rfl] at hbal
      have hleft := hbal.left i _ false (setPhase_self _ _ _)
      exact Bool.false_ne_true hleft.1.symm
    | false =>
      rw [if_neg Bool.false_ne_true] at hbal
      have hhonest := hbal.returned i _ (setPhase_self _ _ _)
      exact Bool.false_ne_true hhonest.credit.symm

/-- A call that returns with a credit leaves no balanced state. -/
theorem Balanced.fail_credit {i : ι} {credit : ShmCredit} (h : (w.fail i credit).Balanced) :
    credit = .none := by
  have hhonest := h.returned i _ (setPhase_self _ _ _)
  by_contra hne
  have hcredit : false = decide (credit ≠ .none) := hhonest.credit
  rw [decide_eq_true hne] at hcredit
  exact Bool.false_ne_true hcredit

/-- A call that notifies another receiver than the one that has its message reports what is not
so. -/
theorem Inv.not_misled (h : Inv e w q lent notifying) {i : ι} {out : ShmCallOutcome}
    {freed : Bool} (hi : w.phase i = .notify out true)
    (hfree : itcFreeAllowed (msg i).msg = .ok freed) :
    ¬ (w.report i out true true freed).Balanced := by
  intro hbal
  have hout := h.calls i
  rw [hi] at hout
  obtain rfl : out = _ := hout
  rw [itcFreeAllowed_user] at hfree
  cases hfree
  unfold ShmWorld.report at hbal
  rw [if_pos rfl] at hbal
  have hhonest := hbal.returned i _ (setPhase_self _ _ _)
  exact Bool.false_ne_true (hhonest.rc.mp rfl).2

/-- **Every step into a balanced state meets `KeepsBalance`.** -/
theorem Inv.keepsBalance [DecidableEq κ] (h : Inv e w q lent notifying) {act : ShmEvent ι}
    (hstep : ShmWorldStep e a proc msg w act w') (hbal : w'.Balanced) :
    KeepsBalance proc msg w act := by
  cases hstep with
  | enter hi hmutex hcontact hr => exact h.entered hi hmutex hcontact hr hbal
  | enterFault => exact absurd (setPhase_self _ _ _) (hbal.faulted _)
  | reenterFault => exact absurd (setPhase_self _ _ _) (hbal.faulted _)
  | mutexFailed hi =>
    intro credit sleep hcredit
    rw [hi] at hcredit
    cases hcredit
    exact hbal.fail_credit
  | mutexGone hi =>
    intro credit sleep hcredit
    rw [hi] at hcredit
    cases hcredit
    exact hbal.fail_credit
  | reenter _ hr => exact h.not_reentered hr hbal
  | notify posts hi _ hfree =>
    rintro rfl out hlost
    rw [hi] at hlost
    cases hlost
    exact h.not_misled hi hfree hbal
  | _ => trivial

end ShmWorld

/-! ## The runs -/

/-- **A run keeps the semaphores balanced and its results honest** exactly if every call that
holds a credit gets the mutex and finds room, and notifies the receiver that has its message. -/
theorem sysvshm_balanced_iff {ι κ : Type} [DecidableEq ι] [DecidableEq κ] (e : Endian)
    (a : Allocator) (proc : ι → κ) (msg : ι → ShmMessage) (acts : List (ShmEvent ι))
    (w : ShmWorld ι κ) :
    Run (Into (ShmWorldStep e a proc msg) ShmWorld.Balanced) .init acts w ↔
      Run (Guarded (ShmWorldStep e a proc msg) (KeepsBalance proc msg)) .init acts w := by
  refine Run.into_iff_guarded
    (I := fun w => ∃ q lent notifying, ShmWorld.Inv e w q lent notifying) ?_ ?_ ?_ ?_
  · rintro w act w' ⟨q, lent, notifying, hinv⟩ hkeeps hstep
    exact hinv.step hkeeps hstep
  · rintro w ⟨q, lent, notifying, hinv⟩
    exact hinv.balanced
  · rintro w act w' ⟨q, lent, notifying, hinv⟩ hstep hbal
    exact hinv.keepsBalance hstep hbal
  · exact ⟨[], 0, 0, .init e⟩

/-- A message of 16340 bytes needs four pages and fits no pool: its call takes a credit and the
mutex, queues nothing, gives neither back and returns `ITC_OK`. -/
theorem sysvshm_mutex_leaked :
    let msg := fun _ : Nat => ({ UserMessage.fresh .little 16340 7 0x00200001 (by decide)
      (by decide) with fits := by decide } : ShmMessage)
    ∃ w : ShmWorld Nat Nat, Run (ShmWorldStep .little .least (fun _ => 0) msg) .init
        [.connect 0, .sleepSlot 0, .takeSlot 0, .sleepMutex 0, .enter 0 true true] w ∧
      w.phase 0 = .returned ⟨ITC_OK, true, true, false, false, false⟩ ∧ w.semMutex = 0 ∧
        ¬ w.Balanced := by
  intro msg
  have hpool : choosePool (msg 0).msg.size = (.poolUnlimit, 4) := by decide
  have henq := sysvshmEnqueue_init_band (e := .little) ITC_OK hpool
  have hsection : shmSection .little true .init (msg 0).msg =
      .ok { shm := .init, rc := ITC_OK, released := false } := by
    unfold shmSection
    rw [Bool.not_true, Bool.and_false, if_neg Bool.false_ne_true, henq]
  refine ⟨_, .cons (.connect rfl rfl) <| .cons (.sleepSlot rfl) <|
    .cons (.takeSlot rfl (by decide)) <| .cons (.sleepMutex rfl) <|
    .cons (.enter rfl (by decide) rfl hsection) (.nil _), rfl, rfl, ?_⟩
  intro hbal
  have hmutex : (0 : Nat) = 1 := hbal.mutex
  cases hmutex

end ItcFramework
