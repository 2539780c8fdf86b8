import ItcFramework.Itc.CallSpecs

/-!
# Handing a message over to its mailbox

The rx thread of a shared-memory transport ends `handle_received_message` with
`itc_send(&msg, message->receiver, ITC_MY_MBOX_ID, NULL)`, in the critical section of its own
segment. What the local transport does not take `itc_send` passes on to the same plugin, whose
`send` waits for the mutex of the segment that the id names.

* `RxProcess`, `RxProcess.handOver` — the process at that moment, and what becomes of the call.
* `RxProcess.itcSend_queued` — the messages it queues are those that `itcSend` queues.
* `RxProcess.SendsToItself`, `RxProcess.handOver_waits_iff` — when the call does not return.
* `RxProcess.NoneToItself` — all messages that come one after the other can be handed over.
-/

set_option autoImplicit false

namespace ItcFramework

open ByteImage HeapModel ItcInstance

/-- What becomes of the `itc_send` of `handle_received_message`. -/
inductive HandOver where
  /-- The message is in an rx queue of the process. -/
  | queued
  /-- It is in the queue of another process. -/
  | sent
  | refused
  /-- `itc_send` waits for the mutex that its own thread holds. -/
  | waits
  deriving DecidableEq, Repr

/-- The process of an rx thread as its `itc_send` finds it. -/
structure RxProcess where
  itc : ItcInstance Unit
  tid : Nat
  /-- What `malloc` answers for the item of the rx queue. -/
  qitemMem : Bool
  /-- Whether the plugin's contact list leads to the segment of the process that the id names. -/
  contact : Bool
  /-- Whether another process takes a message for it. No sender puts one into this segment. -/
  elsewhere : Bool

/-- `local_send` returns `ITC_OK`. -/
def localTakes (mem : Bool) (inst : LocalInst) (toMbox : MboxId) : Bool :=
  match findLocalmbxData inst toMbox with
  | .error _ => false
  | .ok i => mem && (inst.localmbxData i).rxq.isSome

theorem localTakes_iff {mem : Bool} {inst : LocalInst} {toMbox : MboxId} :
    localTakes mem inst toMbox = true ↔ LocalAccepts mem inst toMbox := by
  rw [localTakes, LocalAccepts]
  cases findLocalmbxData inst toMbox with
  | error rc => simp
  | ok i => simp [Option.isSome_iff_ne_none]

namespace RxProcess

/-- `itc_send_zz` of the rx thread, up to what its result depends on. -/
def handOver (p : RxProcess) (toMbox : MboxId) : HandOver :=
  match p.itc.myThreadlocalMbox p.tid with
  | none => .refused
  | some me =>
      if toMbox = (p.itc.mboxes me).mboxId then .refused
      else if (findMbox p.itc toMbox).any fun i => (p.itc.mboxes i).mboxState != .inuse then
        .refused
      else if localTakes p.qitemMem p.itc.localInst toMbox then .queued
      else if procOf toMbox = 0 ∨ MAX_SUPPORTED_PROCESSES ≤ procOf toMbox ∨ p.contact = false then
        .refused
      else if toMbox &&& p.itc.itccoordMask = p.itc.myMboxIdInItccoord then .waits
      else if p.elsewhere then .sent else .refused

/-- The id is one of the process, of no mailbox that stops the message, and the local transport
does not take it. -/
structure SendsToItself (p : RxProcess) (toMbox : MboxId) : Prop where
  process : toMbox &&& p.itc.itccoordMask = p.itc.myMboxIdInItccoord
  maySend : ∃ myMbox, p.itc.MaySend p.tid toMbox ITC_MY_MBOX_ID myMbox
  active : ¬ p.itc.Inactive toMbox
  notTaken : ¬ LocalAccepts p.qitemMem p.itc.localInst toMbox
  index : 0 < procOf toMbox ∧ procOf toMbox < MAX_SUPPORTED_PROCESSES
  contact : p.contact = true

variable {p : RxProcess} {toMbox : MboxId}

theorem handOver_rejected (hno : ∀ myMbox, ¬ p.itc.MaySend p.tid toMbox ITC_MY_MBOX_ID myMbox) :
    p.handOver toMbox = .refused := by
  unfold handOver
  split
  · rfl
  · rename_i me hme
    refine if_pos ?_
    by_contra hne
    exact hno _ ⟨me, hme, rfl, hne, .inl rfl⟩

/-- The choices of a call that gets as far as the message. -/
theorem handOver_maySend {myMbox : MboxId}
    (h : p.itc.MaySend p.tid toMbox ITC_MY_MBOX_ID myMbox) :
    p.handOver toMbox =
      if (findMbox p.itc toMbox).any fun i => (p.itc.mboxes i).mboxState != .inuse then .refused
      else if localTakes p.qitemMem p.itc.localInst toMbox then .queued
      else if procOf toMbox = 0 ∨ MAX_SUPPORTED_PROCESSES ≤ procOf toMbox ∨ p.contact = false then
        .refused
      else if toMbox &&& p.itc.itccoordMask = p.itc.myMboxIdInItccoord then .waits
      else if p.elsewhere then .sent else .refused := by
  obtain ⟨me, hme, rfl, hne, -⟩ := h
  simp only [handOver, hme, if_neg hne]

/-- **When the hand-over does not return.** -/
theorem handOver_waits_iff : p.handOver toMbox = .waits ↔ p.SendsToItself toMbox := by
  by_cases hmay : ∃ myMbox, p.itc.MaySend p.tid toMbox ITC_MY_MBOX_ID myMbox
  · obtain ⟨myMbox, hmay⟩ := hmay
    rw [handOver_maySend hmay]
    constructor
    · intro h
      split at h
      · cases h
      rename_i hactive
      rw [any_inactive_iff] at hactive
      split at h
      · cases h
      rename_i hlocal
      rw [localTakes_iff] at hlocal
      split at h
      · cases h
      rename_i hindex
      split at h
      · rename_i hprocess
        rw [not_or, not_or, Nat.not_le, Bool.not_eq_false] at hindex
        exact ⟨hprocess, ⟨_, hmay⟩, hactive, hlocal, ⟨Nat.pos_of_ne_zero hindex.1, hindex.2.1⟩,
          hindex.2.2⟩
      · split at h <;> cases h
    · intro h
      have hindex : ¬ (procOf toMbox = 0 ∨ MAX_SUPPORTED_PROCESSES ≤ procOf toMbox ∨
          p.contact = false) := by
        rw [not_or, not_or, Nat.not_le, Bool.not_eq_false]
        exact ⟨Nat.pos_iff_ne_zero.mp h.index.1, h.index.2, h.contact⟩
      rw [if_neg (mt (any_inactive_iff p.itc toMbox).mp h.active), if_neg (mt localTakes_iff.mp h.notTaken),
        if_neg hindex, if_pos h.process]
  · rw [handOver_rejected fun myMbox h => hmay ⟨myMbox, h⟩]
    exact ⟨nofun, fun h => absurd h.maySend hmay⟩

/-- **What the hand-over queues `itcSend` queues**, in a process whose bookkeeping is sound. -/
theorem itcSend_queued {E : ItcEnv Unit} {q : Queues} {ptr : Nat} {m : UserMessage}
    (h : p.itc.Inv q) (hm : p.itc.heap.cells ptr = some m.msg) (hmem : E.qitemMem = p.qitemMem)
    (fuel : Nat) :
    Returns (itcSend E fuel p.itc p.tid (some ptr) toMbox ITC_MY_MBOX_ID) fun r =>
      r.taken = some .rxQueue ↔ p.handOver toMbox = .queued := by
  obtain ⟨o, hsend, hout⟩ := itcSend_returns (E := E) h hm fuel p.tid toMbox ITC_MY_MBOX_ID
  refine ⟨o, hsend, fun r hr => ?_⟩
  cases hout r hr with
  | rejected hno =>
    rw [handOver_rejected hno]
    exact ⟨nofun, nofun⟩
  | host hmay hhost =>
    rw [handOver_maySend hmay, ← hmem]
    cases hhost with
    | inactive hinactive _ =>
      rw [if_pos ((any_inactive_iff p.itc toMbox).mpr hinactive)]
      exact ⟨nofun, nofun⟩
    | queued hactive haccepts _ _ _ _ =>
      rw [if_neg (mt (any_inactive_iff p.itc toMbox).mp hactive), if_pos (localTakes_iff.mpr haccepts)]
      exact ⟨fun _ => rfl, fun _ => rfl⟩
    | refused hactive hlocal _ _ _ =>
      rw [if_neg (mt (any_inactive_iff p.itc toMbox).mp hactive), if_neg (mt localTakes_iff.mp hlocal)]
      refine ⟨nofun, fun h => ?_⟩
      split at h
      · cases h
      · split at h
        · cases h
        · split at h <;> cases h
    | taken hactive hlocal _ _ ht _ =>
      rw [if_neg (mt (any_inactive_iff p.itc toMbox).mp hactive), if_neg (mt localTakes_iff.mp hlocal)]
      refine ⟨fun h => ?_, fun h => ?_⟩
      · rcases ht with ⟨-, rfl⟩ | ⟨-, rfl⟩ <;> cases h
      · split at h
        · cases h
        · split at h
          · cases h
          · split at h <;> cases h

/-! ## One message after the other -/

/-- No message is one that the process sends to itself when its rx thread comes to it; `proc n` is
the process when the rx thread hands the message number `n` over. -/
def NoneToItself (proc : Nat → RxProcess) (receivers : List MboxId) : Prop :=
  ∀ n toMbox, receivers[n]? = some toMbox → ¬ (proc n).SendsToItself toMbox

theorem NoneToItself.nil (proc : Nat → RxProcess) : NoneToItself proc [] := fun _ _ h => by
  cases h

theorem NoneToItself.snoc {proc : Nat → RxProcess} {receivers : List MboxId}
    (h : NoneToItself proc receivers) {n : Nat} (hn : n = receivers.length)
    (hnew : ¬ (proc n).SendsToItself toMbox) : NoneToItself proc (receivers ++ [toMbox]) := by
  intro k toMbox' hk
  rw [List.getElem?_append] at hk
  split at hk
  · exact h k toMbox' hk
  · rename_i hge
    obtain ⟨hlt, rfl⟩ := List.getElem?_eq_some_iff.mp hk
    rw [List.getElem_singleton]
    rw [List.length_singleton] at hlt
    obtain rfl : k = n := by omega
    exact hnew

/-- The message behind those that have been handed over can be handed over. -/
theorem NoneToItself.next {proc : Nat → RxProcess} {handled rest : List MboxId}
    (h : NoneToItself proc (handled ++ toMbox :: rest)) {n : Nat} (hn : n = handled.length) :
    (proc n).handOver toMbox ≠ .waits := by
  rw [ne_eq, handOver_waits_iff]
  refine h n toMbox ?_
  rw [hn, List.getElem?_append_right (Nat.le_refl _), Nat.sub_self, List.getElem?_cons_zero]

/-! ## A process with two mailboxes -/

/-- After `itc_init_zz` in the process with the index `proc`, where the rx thread has created the
first mailbox and another thread the second. -/
def twoMailboxes (proc : Nat) (nrMboxes : UInt32) : RxProcess :=
  let s : ItcInstance Unit := .init proc nrMboxes 0 ()
  let localInst := (localCreateMbox s.localInst (s.mboxes 0).mboxId 0).2
  { itc := { s with
      mboxes := fun i =>
        if i < 2 then { s.mboxes i with mboxState := .inuse } else s.mboxes i
      localInst := (localCreateMbox localInst (s.mboxes 1).mboxId 0).2
      myThreadlocalMbox := fun tid => if tid < 2 then some tid else none }
    tid := 0
    qitemMem := true
    contact := true
    elsewhere := true }

example : (twoMailboxes 2 3).handOver 0x00200001 = .queued := by decide

end RxProcess

end ItcFramework
