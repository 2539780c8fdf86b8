import ItcFramework.Transport.SysvshmQueue
import ItcFramework.Lib.Transition

/-!
# Delivery through the System V shared memory

Any number of calls of `sysvshm_send`, each with a message of its own, and the receiver's
`sysvshm_rx_thread`, interleaved at the semaphore operations; each critical section is one step,
that of the receiver up to the hand-over, which returns. The receiver stays alive, so no semaphore
is removed under a waiting process.

* `ShmNet.Inv` — the invariant: what has been handed over and what the segment holds make up
  the messages queued so far, and the semaphores count them.
* `sysvshm_fifo` — the runs in which every section of a sender finds room deliver every
  accepted message, once and in the order of the critical sections.

A section that does not find room breaks the queue: `sysvshm_accepted_not_queued`.
-/

set_option autoImplicit false

namespace ItcFramework

open ByteImage LinkedChain Transition

/-! ## The system -/

/-- How far a call of `sysvshm_send` has come. -/
inductive ShmSendPhase where
  | notCalled
  | waitSlot
  | waitMutex
  | notify (rc : UInt32)
  | returned (rc : UInt32)
  deriving DecidableEq, Repr

/-- Where the rx thread stands in its loop. -/
inductive ShmRxPhase where
  | waitNotify
  | waitMutex
  | postSlot
  deriving DecidableEq, Repr

/-- The receiver's segment and semaphores, the calls and the rx thread. `order` lists the calls
that have linked their message, `handled` the messages that `handle_received_message` has
passed on. -/
structure ShmNet (ι : Type) where
  shm : SysvshmSegment
  semSlot : Nat
  semMutex : Nat
  semNotify : Nat
  phase : ι → ShmSendPhase
  rx : ShmRxPhase
  order : List ι
  handled : List ItcMessage

inductive ShmAction (ι : Type) where
  | call (i : ι)
  | refuse (i : ι)
  | takeSlot (i : ι)
  | enter (i : ι)
  | notify (i : ι)
  | rxWait
  | rxEnter
  | rxPost
  deriving DecidableEq, Repr

/-- What is left to do when no call goes on to its critical section. -/
def ShmAction.Finishing {ι : Type} : ShmAction ι → Prop
  | .notify _ => True
  | .rxWait => True
  | .rxEnter => True
  | .rxPost => True
  | _ => False

namespace ShmNet

variable {ι : Type}

/-- After `sysvshm_init` of the receiver. -/
def init : ShmNet ι where
  shm := .init
  semSlot := MAX_SYSVSHM_SLOTS
  semMutex := 1
  semNotify := 0
  phase := fun _ => .notCalled
  rx := .waitNotify
  order := []
  handled := []

variable [DecidableEq ι]

def setPhase (net : ShmNet ι) (i : ι) (phase : ShmSendPhase) : ShmNet ι :=
  { net with phase := fun j => if j = i then phase else net.phase j }

/-- A call leaves its critical section, with or without the mutex. -/
def leave (net : ShmNet ι) (i : ι) (r : SysvshmEnqueued) : ShmNet ι :=
  if r.released then
    { net with shm := r.shm, order := net.order ++ [i] }.setPhase i (.notify r.rc)
  else { net with shm := r.shm, semMutex := net.semMutex - 1 }.setPhase i (.returned r.rc)

end ShmNet

/-- The `itc_send` of `handle_received_message` returns, whoever the message is for. -/
def handOverReturns (_ : MboxId) : HandOver := .queued

/-- The steps of the system. `refuse` is a call for which `get_sysvshm_cl` finds no receiver. -/
inductive ShmStep {ι : Type} [DecidableEq ι] (e : Endian) (a : Allocator) (msg : ι → ShmMessage) :
    ShmNet ι → ShmAction ι → ShmNet ι → Prop where
  | call {net : ShmNet ι} {i : ι} (hi : net.phase i = .notCalled) :
      ShmStep e a msg net (.call i) (net.setPhase i .waitSlot)
  | refuse {net : ShmNet ι} {i : ι} (hi : net.phase i = .notCalled) :
      ShmStep e a msg net (.refuse i) (net.setPhase i (.returned ITC_QUEUE_NULL))
  | takeSlot {net : ShmNet ι} {i : ι} (hi : net.phase i = .waitSlot) (hslot : 0 < net.semSlot) :
      ShmStep e a msg net (.takeSlot i)
        ({ net with semSlot := net.semSlot - 1 }.setPhase i .waitMutex)
  | enter {net : ShmNet ι} {i : ι} {r : SysvshmEnqueued} (hi : net.phase i = .waitMutex)
      (hmutex : 0 < net.semMutex) (hr : sysvshmEnqueue e ITC_OK net.shm (msg i).msg = .ok r) :
      ShmStep e a msg net (.enter i) (net.leave i r)
  | notify {net : ShmNet ι} {i : ι} {rc : UInt32} {freed : Bool} (hi : net.phase i = .notify rc)
      (hfree : itcFreeAllowed (msg i).msg = .ok freed) :
      ShmStep e a msg net (.notify i) ({ net with semNotify := net.semNotify + 1 }.setPhase i
        (.returned (if freed then ITC_OK else rc)))
  | rxWait {net : ShmNet ι} (hrx : net.rx = .waitNotify) (hnotify : 0 < net.semNotify) :
      ShmStep e a msg net .rxWait { net with semNotify := net.semNotify - 1, rx := .waitMutex }
  | rxEnter {net : ShmNet ι} {r : SysvshmDequeued} (hrx : net.rx = .waitMutex)
      (hmutex : 0 < net.semMutex) (hr : sysvshmDequeue e a handOverReturns net.shm = .ok r) :
      ShmStep e a msg net .rxEnter
        { net with shm := r.shm, rx := .postSlot, handled := net.handled ++ r.fwd.toList }
  | rxPost {net : ShmNet ι} (hrx : net.rx = .postSlot) :
      ShmStep e a msg net .rxPost { net with semSlot := net.semSlot + 1, rx := .waitNotify }

section
variable {ι : Type} [DecidableEq ι] (e : Endian) (a : Allocator) (msg : ι → ShmMessage)

/-- Every section of a sender finds room. -/
def ShmRoom (net : ShmNet ι) (act : ShmAction ι) : Prop :=
  ∀ i, act = .enter i → net.shm.HasRoom (msg i).msg.size

/-- The transport as a FIFO channel: what has been handed over are the first of the messages
queued so far, the segment threads the others, the queued messages are those of the calls that
return `ITC_OK`, and left to finish the receiver hands over all of them. -/
structure ShmFifo (net : ShmNet ι) : Prop where
  fifo : net.handled <+: net.order.map fun i => (msg i).msg
  once : net.order.Nodup
  chain : ∃ l, Threaded net.shm.head net.shm.tail net.shm.next l ∧
    (∀ r, (net.shm.slots r).isInUse = true ↔ r ∈ l) ∧
      net.handled.length + l.length = net.order.length
  accepted : ∀ i, i ∈ net.order ↔
    (∃ rc, net.phase i = .notify rc) ∨ net.phase i = .returned ITC_OK
  delivered : ∃ as net', Run (ShmStep e a msg) net as net' ∧ (∀ act ∈ as, act.Finishing) ∧
    net'.order = net.order ∧ net'.handled = net.order.map fun i => (msg i).msg

end

/-! ## The invariant -/

namespace ShmNet

variable {ι : Type}

/-- The call has linked its message and has not posted `m_sem_notify` yet. -/
def notifying (net : ShmNet ι) (i : ι) : Bool :=
  match net.phase i with
  | .notify _ => true
  | _ => false

/-- The calls `done` have been handed over and `q` is what the segment holds. -/
structure Inv (e : Endian) (msg : ι → ShmMessage) (net : ShmNet ι) (done : List ι)
    (q : List (SysvshmPoolSlot × ι)) : Prop where
  holds : net.shm.Holds e (q.map (Prod.map id msg))
  order : net.order = done ++ q.map Prod.snd
  handled : net.handled = done.map fun i => (msg i).msg
  once : net.order.Nodup
  accepted : ∀ i, i ∈ net.order ↔
    (∃ rc, net.phase i = .notify rc) ∨ net.phase i = .returned ITC_OK
  count : q.length = net.semNotify + net.order.countP net.notifying +
    (if net.rx = .waitMutex then 1 else 0)
  mutex : net.semMutex = 1

theorem Inv.init (e : Endian) (msg : ι → ShmMessage) : Inv e msg .init [] [] where
  holds := .init e
  order := rfl
  handled := rfl
  once := List.nodup_nil
  accepted i := by simp [ShmNet.init]
  count := rfl
  mutex := rfl

variable {e : Endian} {a : Allocator} {msg : ι → ShmMessage} {net net' : ShmNet ι}
  {done : List ι} {q : List (SysvshmPoolSlot × ι)}

/-- The count over a list without repetition changes by one when one of its elements leaves. -/
theorem countP_of_leave {l : List ι} {p p' : ι → Bool} {i : ι} (hnd : l.Nodup) (hi : i ∈ l)
    (hp : p i = true) (hp' : p' i = false) (heq : ∀ j, j ≠ i → p' j = p j) :
    l.countP p = l.countP p' + 1 := by
  obtain ⟨l₁, l₂, rfl⟩ := List.append_of_mem hi
  have hnd' := List.nodup_append.mp hnd
  have h₁ : l₁.countP p' = l₁.countP p := by
    refine List.countP_congr fun j hj => ?_
    rw [heq j fun hji => hnd'.2.2 j hj i List.mem_cons_self hji]
  have h₂ : l₂.countP p' = l₂.countP p := by
    refine List.countP_congr fun j hj => ?_
    rw [heq j fun hji => (List.nodup_cons.mp hnd'.2.1).1 (hji ▸ hj)]
  rw [List.countP_append, List.countP_append, List.countP_cons, List.countP_cons, h₁, h₂, hp, hp']
  simp only [Bool.false_eq_true, if_true, if_false]
  omega

/-- The rx thread wakes up. -/
theorem Inv.rxWait (h : Inv e msg net done q) (hrx : net.rx = .waitNotify)
    (hnotify : 0 < net.semNotify) :
    Inv e msg { net with semNotify := net.semNotify - 1, rx := .waitMutex } done q where
  holds := h.holds
  order := h.order
  handled := h.handled
  once := h.once
  accepted := h.accepted
  count := by
    have hcount := h.count
    rw [hrx] at hcount
    change q.length = net.semNotify - 1 + net.order.countP net.notifying + 1
    simp only [reduceCtorEq, if_false] at hcount
    omega
  mutex := h.mutex

/-- An awake rx thread finds a message, and hands it over. -/
theorem Inv.rxEnter (h : Inv e msg net done q) (a : Allocator) (hrx : net.rx = .waitMutex) :
    ∃ slot i q' shm', q = (slot, i) :: q' ∧
      sysvshmDequeue e a handOverReturns net.shm =
          .ok { shm := shm', fwd := some (msg i).msg, running := true } ∧
        Inv e msg { net with
          shm := shm', rx := .postSlot, handled := net.handled ++ [(msg i).msg] }
          (done ++ [i]) q' := by
  have hcount := h.count
  rw [hrx, if_pos rfl] at hcount
  cases q with
  | nil => cases hcount
  | cons p q =>
    obtain ⟨slot, i⟩ := p
    obtain ⟨shm', hrun, hholds⟩ := sysvshmDequeue_spec a handOverReturns h.holds rfl
    refine ⟨slot, i, q, shm', rfl, hrun, hholds, ?_, ?_, h.once, h.accepted, ?_, h.mutex⟩
    · simp [h.order]
    · simp [h.handled]
    · rw [List.length_cons] at hcount
      change q.length = net.semNotify + net.order.countP net.notifying + 0
      omega

/-- The rx thread gives a slot credit back. -/
theorem Inv.rxPost (h : Inv e msg net done q) (hrx : net.rx = .postSlot) (semSlot : Nat) :
    Inv e msg { net with semSlot, rx := .waitNotify } done q where
  holds := h.holds
  order := h.order
  handled := h.handled
  once := h.once
  accepted := h.accepted
  count := by
    have hcount := h.count
    rw [hrx] at hcount
    exact hcount
  mutex := h.mutex

variable [DecidableEq ι]

@[simp] theorem setPhase_order (net : ShmNet ι) (i : ι) (phase : ShmSendPhase) :
    (net.setPhase i phase).order = net.order := rfl

theorem notifying_setPhase_ne (net : ShmNet ι) {i j : ι} (phase : ShmSendPhase) (h : j ≠ i) :
    (net.setPhase i phase).notifying j = net.notifying j := by
  simp only [notifying, setPhase, if_neg h]

theorem setPhase_self (net : ShmNet ι) (i : ι) (phase : ShmSendPhase) :
    (net.setPhase i phase).phase i = phase := if_pos rfl

theorem setPhase_ne (net : ShmNet ι) {i j : ι} (phase : ShmSendPhase) (h : j ≠ i) :
    (net.setPhase i phase).phase j = net.phase j := if_neg h

/-- A call that is not past its critical section, before and after. -/
theorem Inv.before (h : Inv e msg net done q) {i : ι} {phase : ShmSendPhase}
    (hi : i ∉ net.order) (hphase : ∀ rc, phase = .notify rc ∨ phase = .returned rc →
      phase = .returned ITC_QUEUE_NULL) (semSlot : Nat) :
    Inv e msg ({ net with semSlot }.setPhase i phase) done q where
  holds := h.holds
  order := h.order
  handled := h.handled
  once := h.once
  accepted j := by
    by_cases hj : j = i
    · subst hj
      rw [setPhase_self]
      refine ⟨fun hmem => absurd hmem hi, ?_⟩
      rintro (⟨rc, hrc⟩ | hrc)
      · have := hphase rc (.inl hrc)
        rw [hrc] at this
        cases this
      · have := hphase _ (.inr hrc)
        rw [hrc] at this
        exact absurd (ShmSendPhase.returned.inj this) (by decide)
    · rw [setPhase_ne _ _ hj]
      exact h.accepted j
  count := by
    have hc : net.order.countP ({ net with semSlot }.setPhase i phase).notifying =
        net.order.countP net.notifying := by
      refine List.countP_congr fun j hj => ?_
      have hji : j ≠ i := fun heq => hi (heq ▸ hj)
      rw [notifying_setPhase_ne _ _ hji]
      rfl
    have := h.count
    simp only [setPhase] at hc ⊢
    rw [hc]
    exact this
  mutex := h.mutex

/-- A call links its message. -/
theorem Inv.enter (h : Inv e msg net done q) {i : ι} {r : SysvshmEnqueued}
    (hi : net.phase i = .waitMutex) (hroom : net.shm.HasRoom (msg i).msg.size)
    (hr : sysvshmEnqueue e ITC_OK net.shm (msg i).msg = .ok r) :
    ∃ slot, Inv e msg (net.leave i r) done (q ++ [(slot, i)]) := by
  obtain ⟨shm', slot, hrun, hholds⟩ := sysvshmEnqueue_spec h.holds (msg i) ITC_OK hroom
  obtain rfl : { shm := shm', rc := ITC_OK, released := true } = r := by
    rw [hrun] at hr
    exact Except.ok.inj hr
  have hnot : i ∉ net.order := by
    rw [h.accepted, hi]
    simp
  refine ⟨slot, ?_⟩
  simp only [leave, if_true]
  constructor
  · simpa [setPhase] using hholds
  · simp [setPhase, h.order]
  · exact h.handled
  · refine List.nodup_append.mpr ⟨h.once, List.nodup_singleton i, ?_⟩
    intro j hj k hk hjk
    exact hnot (List.mem_singleton.mp hk ▸ hjk ▸ hj)
  · intro j
    rw [setPhase_order, List.mem_append, List.mem_singleton]
    by_cases hj : j = i
    · subst hj
      rw [setPhase_self]
      exact ⟨fun _ => .inl ⟨_, rfl⟩, fun _ => .inr rfl⟩
    · rw [setPhase_ne _ _ hj, or_iff_left hj]
      exact h.accepted j
  · have hc : net.order.countP ({ net with shm := shm', order := net.order ++ [i] }.setPhase i
        (.notify ITC_OK)).notifying = net.order.countP net.notifying := by
      refine List.countP_congr fun j hj => ?_
      have hji : j ≠ i := fun heq => hnot (heq ▸ hj)
      rw [notifying_setPhase_ne _ _ hji]
      rfl
    have hnew : ({ net with shm := shm', order := net.order ++ [i] }.setPhase i
        (.notify ITC_OK)).notifying i = true := by
      rw [notifying, setPhase_self]
    have hcount := h.count
    rw [setPhase_order, List.countP_append, hc, List.countP_singleton, hnew, List.length_append]
    simp only [setPhase, List.length_singleton, if_true]
    omega
  · exact h.mutex

/-- A call posts `m_sem_notify`, frees its message and returns. -/
theorem Inv.notify (h : Inv e msg net done q) {i : ι} {rc : UInt32}
    (hi : net.phase i = .notify rc) :
    Inv e msg ({ net with semNotify := net.semNotify + 1 }.setPhase i (.returned ITC_OK)) done q ∧
      net.order.countP net.notifying = net.order.countP ({ net with
        semNotify := net.semNotify + 1 }.setPhase i (.returned ITC_OK)).notifying + 1 := by
  have hmem : i ∈ net.order := (h.accepted i).mpr (.inl ⟨rc, hi⟩)
  have hleave : net.order.countP net.notifying = net.order.countP ({ net with
      semNotify := net.semNotify + 1 }.setPhase i (.returned ITC_OK)).notifying + 1 := by
    refine countP_of_leave h.once hmem ?_ ?_ ?_
    · rw [notifying, hi]
    · rw [notifying, setPhase_self]
    · intro j hj
      rw [notifying_setPhase_ne _ _ hj]
      rfl
  refine ⟨⟨h.holds, h.order, h.handled, h.once, fun j => ?_, ?_, h.mutex⟩, hleave⟩
  · by_cases hj : j = i
    · subst hj
      rw [setPhase_self]
      exact ⟨fun _ => .inr rfl, fun _ => hmem⟩
    · rw [setPhase_ne _ _ hj]
      exact h.accepted j
  · have hcount := h.count
    rw [hleave] at hcount
    rw [hcount]
    simp only [setPhase]
    omega

/-- **Every step in which a sender's section finds room keeps the invariant.** -/
theorem Inv.step (h : Inv e msg net done q) {act : ShmAction ι} (hroom : ShmRoom msg net act)
    (hstep : ShmStep e a msg net act net') : ∃ done' q', Inv e msg net' done' q' := by
  have hnot : ∀ i, net.phase i = .notCalled ∨ net.phase i = .waitSlot → i ∉ net.order := by
    intro i hi hmem
    rcases (h.accepted i).mp hmem with ⟨rc, hrc⟩ | hrc <;>
      rcases hi with hi | hi <;> rw [hi] at hrc <;> cases hrc
  cases hstep with
  | call hi => exact ⟨done, q, h.before (hnot _ (.inl hi)) (by simp) net.semSlot⟩
  | refuse hi => exact ⟨done, q, h.before (hnot _ (.inl hi)) (by simp) net.semSlot⟩
  | takeSlot hi _ => exact ⟨done, q, h.before (hnot _ (.inr hi)) (by simp) (net.semSlot - 1)⟩
  | enter hi _ hr =>
    obtain ⟨slot, hinv⟩ := h.enter hi (hroom _ rfl) hr
    exact ⟨done, _, hinv⟩
  | notify hi hfree =>
    rw [itcFreeAllowed_user] at hfree
    cases hfree
    exact ⟨done, q, (h.notify hi).1⟩
  | rxWait hrx hnotify => exact ⟨done, q, h.rxWait hrx hnotify⟩
  | rxEnter hrx _ hr =>
    obtain ⟨slot, i, q', shm', -, hrun, hinv⟩ := h.rxEnter a hrx
    rw [hrun] at hr
    cases hr
    exact ⟨_, q', hinv⟩
  | rxPost hrx => exact ⟨done, q, h.rxPost hrx (net.semSlot + 1)⟩

theorem Inv.run (h : Inv e msg net done q) {as : List (ShmAction ι)}
    (hrun : Run (Guarded (ShmStep e a msg) (ShmRoom msg)) net as net') :
    ∃ done' q', Inv e msg net' done' q' := by
  refine hrun.invariant_of_guard (I := fun net => ∃ done q, Inv e msg net done q) ?_ ⟨done, q, h⟩
  rintro net act net' ⟨done, q, hinv⟩ hroom hstep
  exact hinv.step hroom hstep

/-! ## What is left to do ends -/

/-- The steps left for the notifying calls and the rx thread. -/
def remaining (net : ShmNet ι) : Nat :=
  3 * (net.order.length - net.handled.length) + 2 * net.order.countP net.notifying +
    net.semNotify + (if net.rx = .postSlot then 1 else 0)

/-- While the segment holds a message, a notifying call or the rx thread can go on. -/
theorem Inv.progress (h : Inv e msg net done q) (hq : q ≠ []) (a : Allocator) :
    ∃ act net', act.Finishing ∧ ShmStep e a msg net act net' ∧ net'.order = net.order ∧
      net'.remaining < net.remaining ∧ ∃ done' q', Inv e msg net' done' q' := by
  have hmutex : 0 < net.semMutex := by rw [h.mutex]; exact Nat.one_pos
  have hlen : net.order.length - net.handled.length = q.length := by
    rw [h.order, h.handled, List.length_append, List.length_map, List.length_map]
    omega
  cases hrx : net.rx with
  | waitMutex =>
    obtain ⟨slot, i, q', shm', rfl, hr, hinv⟩ := h.rxEnter a hrx
    refine ⟨.rxEnter, _, trivial, .rxEnter hrx hmutex hr, rfl, ?_, _, q', hinv⟩
    have hlen' : net.order.length - (net.handled ++ [(msg i).msg]).length = q'.length := by
      rw [List.length_append, List.length_singleton, ← Nat.sub_sub, hlen, List.length_cons,
        Nat.add_sub_cancel]
    change 3 * (net.order.length - (net.handled ++ [(msg i).msg]).length) +
      2 * net.order.countP net.notifying + net.semNotify + 1 < _
    rw [remaining, hlen, hlen', List.length_cons, hrx]
    simp only [reduceCtorEq, if_false]
    omega
  | postSlot =>
    refine ⟨.rxPost, _, trivial, .rxPost hrx, rfl, ?_, done, q, h.rxPost hrx _⟩
    change 3 * (net.order.length - net.handled.length) + 2 * net.order.countP net.notifying +
      net.semNotify + 0 < _
    rw [remaining, hrx, if_pos rfl]
    omega
  | waitNotify =>
    have hcount := h.count
    rw [hrx] at hcount
    simp only [reduceCtorEq, if_false] at hcount
    have hpos : 0 < q.length := List.length_pos_of_ne_nil hq
    by_cases hn : 0 < net.semNotify
    · refine ⟨.rxWait, _, trivial, .rxWait hrx hn, rfl, ?_, done, q, h.rxWait hrx hn⟩
      change 3 * (net.order.length - net.handled.length) +
        2 * net.order.countP net.notifying + (net.semNotify - 1) + 0 < _
      rw [remaining, hrx]
      simp only [reduceCtorEq, if_false]
      omega
    · obtain ⟨i, -, hi⟩ := List.countP_pos_iff.mp (show 0 < net.order.countP net.notifying by omega)
      obtain ⟨rc, hrc⟩ : ∃ rc, net.phase i = .notify rc := by
        unfold notifying at hi
        split at hi
        · exact ⟨_, by assumption⟩
        · cases hi
      obtain ⟨hinv, hless⟩ := h.notify hrc
      refine ⟨.notify i, _, trivial, .notify hrc (itcFreeAllowed_user _), rfl, ?_, done, q, hinv⟩
      simp only [if_true, remaining, hless]
      simp only [setPhase]
      omega

/-- **Left to finish, the receiver hands over everything that has been queued.** -/
theorem Inv.delivered (h : Inv e msg net done q) (a : Allocator) :
    ∃ as net', Run (ShmStep e a msg) net as net' ∧ (∀ act ∈ as, act.Finishing) ∧
      net'.order = net.order ∧ net'.handled = net.order.map fun i => (msg i).msg := by
  induction hn : net.remaining using Nat.strong_induction_on generalizing net done q with
  | _ n ih =>
    by_cases hq : q = []
    · subst hq
      refine ⟨[], net, .nil net, by simp, rfl, ?_⟩
      rw [h.order, h.handled, List.map_nil, List.append_nil]
    · obtain ⟨act, net₁, hact, hstep, horder, hless, done₁, q₁, hinv⟩ := h.progress hq a
      obtain ⟨as, net', hrun, has, horder', hhandled⟩ := ih _ (hn ▸ hless) hinv rfl
      refine ⟨act :: as, net', .cons hstep hrun, ?_, horder'.trans horder, ?_⟩
      · intro b hb
        rcases List.mem_cons.mp hb with rfl | hb
        · exact hact
        · exact has b hb
      · rw [hhandled, horder]

theorem Inv.shmFifo (h : Inv e msg net done q) (a : Allocator) : ShmFifo e a msg net where
  fifo := by
    rw [h.order, h.handled, List.map_append]
    exact List.prefix_append _ _
  once := h.once
  chain := by
    refine ⟨_, h.holds.threaded, h.holds.inUse, ?_⟩
    rw [h.order, h.handled]
    simp
  accepted := h.accepted
  delivered := h.delivered a

end ShmNet

/-- **The transport is a FIFO channel in every run whose senders find room**: a slot of the
message's pool is free, or the message needs more than four pages and `slot_unlimit` is free. -/
theorem sysvshm_fifo {ι : Type} [DecidableEq ι] (e : Endian) (a : Allocator)
    (msg : ι → ShmMessage) (as : List (ShmAction ι)) (net : ShmNet ι)
    (hrun : Run (Guarded (ShmStep e a msg) (ShmRoom msg)) .init as net) : ShmFifo e a msg net := by
  obtain ⟨done, q, hinv⟩ := (ShmNet.Inv.init e msg).run hrun
  exact hinv.shmFifo a

/-- A small message is sent and received, as far as the critical section of the receiver. -/
theorem sysvshm_fifo_example :
    let msg := fun _ : Nat => ({ UserMessage.fresh .little 100 7 0x00200001 (by decide)
      (by decide) with fits := by decide } : ShmMessage)
    ∃ net, Run (Guarded (ShmStep .little .least msg) (ShmRoom msg)) .init
        [.call 0, .takeSlot 0, .enter 0] net ∧ net.order = [0] ∧
      ShmFifo .little .least msg net := by
  intro msg
  have hroom : SysvshmSegment.init.HasRoom (msg 0).msg.size := by
    rw [SysvshmSegment.HasRoom, if_neg (by decide)]
    exact ⟨by decide, 0, by decide, by decide⟩
  obtain ⟨shm', r, henq, -⟩ :=
    sysvshmEnqueue_spec (SysvshmSegment.Holds.init .little) (msg 0) ITC_OK hroom
  have hrun : Run (Guarded (ShmStep .little .least msg) (ShmRoom msg)) .init
      [.call 0, .takeSlot 0, .enter 0] _ :=
    .cons ⟨(by simp [ShmRoom]), .call rfl⟩ <|
    .cons ⟨(by simp [ShmRoom]), .takeSlot rfl (by decide)⟩ <|
    .cons ⟨(fun i hi => by cases hi; exact hroom), .enter rfl (by decide) henq⟩ (.nil _)
  exact ⟨_, hrun, rfl, sysvshm_fifo .little .least msg _ _ hrun⟩

/-- A message of 16340 bytes is too large for the pools and needs no more than four pages: its
call returns `ITC_OK` without having queued it, and keeps the mutex. -/
theorem sysvshm_accepted_not_queued :
    let msg := fun _ : Nat => ({ UserMessage.fresh .little 16340 7 0x00200001 (by decide)
      (by decide) with fits := by decide } : ShmMessage)
    ∃ net, Run (ShmStep .little .least msg) .init [.call 0, .takeSlot 0, .enter 0] net ∧
      net.phase 0 = .returned ITC_OK ∧ net.order = [] ∧ net.semMutex = 0 ∧
        ¬ ShmFifo .little .least msg net := by
  intro msg
  have hpool : choosePool (msg 0).msg.size = (.poolUnlimit, 4) := by decide
  have henq := sysvshmEnqueue_init_band (e := .little) ITC_OK hpool
  refine ⟨_, .cons (.call rfl) <| .cons (.takeSlot rfl (by decide)) <|
    .cons (.enter rfl (by decide) henq) (.nil _), rfl, rfl, rfl, ?_⟩
  intro hfifo
  exact List.not_mem_nil ((hfifo.accepted 0).mpr (.inr rfl))

end ItcFramework
