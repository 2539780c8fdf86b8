import ItcFramework.Transport.RxQueue

/-!
# The local transport

Embedding of `itc_local.c`: the mailboxes of one process, each with its rx queue. A result
`rc` holds the flags a function has added to an `rc` that was `ITC_OK`.

* `LocalInst.Holds inst q` — mailbox `i` has a queue with the messages `l` where `q i = some l`,
  and no queue where `q i = none`.
* `localCreateMbox_spec`, `localSend_spec`, `localSend_refused`, `localReceive_nil`,
  `localReceive_cons`, `localDeleteMbox_returns` — the operations, in these terms.
-/

set_option autoImplicit false

namespace ItcFramework

open ByteImage HeapModel LinkedChain

/-! ## State -/

/-- `struct local_mbox_data`. -/
structure LocalMboxData where
  mboxId : MboxId
  flags : UInt32
  rxq : Option RxQueue

/-- `struct local_instance`; `isAllocated` tells whether `localmbx_data` is not `NULL`. -/
structure LocalInst where
  myMboxIdInItccoord : MboxId
  itccoordMask : MboxId
  localMboxMask : UInt32
  nrLocalmbxDatas : UInt32
  isAllocated : Bool
  localmbxData : Nat → LocalMboxData

/-- `CLZ`, for a value that is not zero. -/
def CLZ (val : UInt32) : UInt32 := UInt32.ofNat (31 - val.toNat.log2)

/-- `local_init` in a process that had no local mailbox data. -/
def localInit (myMboxIdInItccoord itccoordMask : MboxId) (nrMboxes : UInt32) : LocalInst where
  myMboxIdInItccoord := myMboxIdInItccoord
  itccoordMask := itccoordMask
  localMboxMask := 0xFFFFFFFF >>> CLZ nrMboxes
  nrLocalmbxDatas := (0xFFFFFFFF >>> CLZ nrMboxes) + 1
  isAllocated := true
  localmbxData := fun _ => ⟨0, 0, none⟩

namespace LocalInst

def setData (inst : LocalInst) (i : Nat) (data : LocalMboxData) : LocalInst :=
  { inst with localmbxData := fun j => if j = i then data else inst.localmbxData j }

def setRxq (inst : LocalInst) (i : Nat) (rxq : RxQueue) : LocalInst :=
  inst.setData i { inst.localmbxData i with rxq := some rxq }

end LocalInst

def ITC_MAX_MAILBOXES : UInt32 := 65534

/-! ## Functions -/

/-- `find_localmbx_data`: the index of the data, or the flag it adds to `rc`. -/
def findLocalmbxData (inst : LocalInst) (mboxId : MboxId) : Except UInt32 Nat :=
  if ¬ inst.isAllocated then .error ITC_NOT_INIT_YET
  else if mboxId &&& inst.itccoordMask ≠ inst.myMboxIdInItccoord then .error ITC_NOT_THIS_PROC
  else if mboxId &&& ITC_MAX_MAILBOXES ≥ inst.nrLocalmbxDatas then .error ITC_OUT_OF_RANGE
  else .ok (mboxId &&& inst.localMboxMask).toNat

def localCreateMbox (inst : LocalInst) (mboxId : MboxId) (flags : UInt32) : UInt32 × LocalInst :=
  match findLocalmbxData inst mboxId with
  | .error rc => (rc, inst)
  | .ok i =>
      match (inst.localmbxData i).rxq with
      | some _ => (ITC_ALREADY_USED, inst)
      | none => (ITC_OK, inst.setData i ⟨mboxId, flags, some initQueue⟩)

/-- `local_send`; `mem` is what `malloc` answers. -/
def localSend (mem : Bool) (inst : LocalInst) (heap : Heap ItcMessage) (message : Nat)
    (toMbox : MboxId) : Except MemFault (UInt32 × LocalInst × Heap ItcMessage) :=
  match findLocalmbxData inst toMbox with
  | .error rc => .ok (rc, inst, heap)
  | .ok i =>
      match (inst.localmbxData i).rxq with
      | none => .ok (ITC_QUEUE_NULL, inst, heap)
      | some q => do
          let (rc, q, heap) ← enqueueMessage mem q heap message
          return (rc, inst.setRxq i q, heap)

def localReceive (inst : LocalInst) (heap : Heap ItcMessage) (mboxId : MboxId) :
    Except MemFault (UInt32 × Option Nat × LocalInst × Heap ItcMessage) :=
  match findLocalmbxData inst mboxId with
  | .error rc => .ok (rc, none, inst, heap)
  | .ok i =>
      match (inst.localmbxData i).rxq with
      | none => .ok (ITC_QUEUE_NULL, none, inst, heap)
      | some q => do
          let d ← dequeueMessage q heap
          return (d.rc, d.message, inst.setRxq i d.q, d.heap)

/-- The loop of `local_delete_mbox` that discards the messages, on `fuel` passes; `none` while it
still runs. -/
def discardMessages : Nat → UInt32 → RxQueue → Heap ItcMessage →
    Except MemFault (Option (UInt32 × Heap ItcMessage))
  | 0, _, _, _ => .ok none
  | fuel + 1, rc, q, heap => do
      let d ← dequeueMessage q heap
      match d.message with
      | none => return some (rc ||| d.rc, d.heap)
      | some message =>
          let (freed, heap) ← itcFreeZz d.heap message
          discardMessages fuel (if freed then ITC_OK else rc ||| d.rc) d.q heap

/-- `local_delete_mbox`; `none` while it still discards messages. -/
def localDeleteMbox (fuel : Nat) (inst : LocalInst) (heap : Heap ItcMessage) (mboxId : MboxId) :
    Except MemFault (Option (UInt32 × LocalInst × Heap ItcMessage)) :=
  match findLocalmbxData inst mboxId with
  | .error rc => .ok (some (rc, inst, heap))
  | .ok i =>
      match (inst.localmbxData i).rxq with
      | none => .ok (some (ITC_QUEUE_NULL, inst, heap))
      | some q => do
          let some (rc, heap) ← discardMessages fuel ITC_OK q heap | return none
          return some (rc &&& ~~~ITC_QUEUE_EMPTY, inst.setData i ⟨0, 0, none⟩, heap)

/-! ## The queues as lists -/

/-- The message in an rx queue. -/
def UserMessage.queued (m : UserMessage) : ItcMessage :=
  { m.msg with flags := ITC_FLAGS_MSG_INRXQUEUE }

theorem UserMessage.flags_enqueue (m : UserMessage) :
    { m.msg with flags := m.msg.flags ||| ITC_FLAGS_MSG_INRXQUEUE } = m.queued := by
  rw [UserMessage.queued, m.flags_eq]
  rfl

theorem UserMessage.flags_dequeue (m : UserMessage) :
    { m.queued with flags := m.queued.flags &&& ~~~ITC_FLAGS_MSG_INRXQUEUE } = m.msg := by
  have hflags : m.queued.flags &&& ~~~ITC_FLAGS_MSG_INRXQUEUE = m.msg.flags := by
    rw [m.flags_eq]
    exact (by decide : ITC_FLAGS_MSG_INRXQUEUE &&& ~~~ITC_FLAGS_MSG_INRXQUEUE = 0)
  rw [hflags]
  rfl

/-- A queue, or none, with the messages it holds. -/
def RxqHolds : Option RxQueue → Option (List Nat) → Prop
  | none, none => True
  | some q, some l => q.Holds l
  | _, _ => False

theorem RxqHolds.of_some {rxq : Option RxQueue} {l : List Nat} (h : RxqHolds rxq (some l)) :
    ∃ q, rxq = some q ∧ q.Holds l := by
  cases rxq with
  | none => cases h
  | some q => exact ⟨q, rfl, h⟩

theorem RxqHolds.of_none {rxq : Option RxQueue} (h : RxqHolds rxq none) : rxq = none := by
  cases rxq with
  | none => rfl
  | some q => cases h

/-- The queues of a process, by mailbox index. -/
abbrev Queues := Nat → Option (List Nat)

def LocalInst.Holds (inst : LocalInst) (q : Queues) : Prop :=
  ∀ i, RxqHolds (inst.localmbxData i).rxq (q i)

namespace LocalInst

variable {inst : LocalInst} {q : Queues}

theorem Holds.iff (h : inst.Holds q) (i : Nat) (l : List Nat) :
    (∃ rxq, (inst.localmbxData i).rxq = some rxq ∧ rxq.Holds l) ↔ q i = some l := by
  have hi := h i
  constructor
  · rintro ⟨rxq, hrxq, hl⟩
    rw [hrxq] at hi
    cases hq : q i with
    | none =>
      rw [hq] at hi
      cases hi
    | some l' =>
      rw [hq] at hi
      rw [hl.unique hi]
  · intro hq
    rw [hq] at hi
    exact hi.of_some

theorem Holds.setData (h : inst.Holds q) (i : Nat) {data : LocalMboxData}
    {o : Option (List Nat)} (hdata : RxqHolds data.rxq o) :
    (inst.setData i data).Holds (Function.update q i o) := by
  intro j
  by_cases hj : j = i
  · rw [hj, Function.update_self]
    simp only [LocalInst.setData, if_true]
    exact hdata
  · rw [Function.update_of_ne hj]
    simp only [LocalInst.setData, if_neg hj]
    exact h j

theorem Holds.setRxq (h : inst.Holds q) (i : Nat) {rxq : RxQueue} {l : List Nat}
    (hrxq : rxq.Holds l) : (inst.setRxq i rxq).Holds (Function.update q i (some l)) :=
  h.setData i hrxq

end LocalInst

/-- The local transport takes a message for `toMbox`. -/
def LocalAccepts (mem : Bool) (inst : LocalInst) (toMbox : MboxId) : Prop :=
  mem = true ∧ ∃ i, findLocalmbxData inst toMbox = .ok i ∧ (inst.localmbxData i).rxq ≠ none

theorem findLocalmbxData_error {inst : LocalInst} {mboxId : MboxId} {rc : UInt32}
    (h : findLocalmbxData inst mboxId = .error rc) : rc ≠ ITC_OK := by
  unfold findLocalmbxData at h
  split at h
  · cases h
    decide
  · split at h
    · cases h
      decide
    · split at h
      · cases h
        decide
      · cases h

/-- A `local_send` that is refused changes nothing. -/
theorem localSend_refused {mem : Bool} {inst : LocalInst} {toMbox : MboxId}
    (h : ¬ LocalAccepts mem inst toMbox) (heap : Heap ItcMessage) (p : Nat) :
    ∃ rc, rc ≠ ITC_OK ∧ localSend mem inst heap p toMbox = .ok (rc, inst, heap) := by
  unfold localSend
  cases hfind : findLocalmbxData inst toMbox with
  | error rc => exact ⟨rc, findLocalmbxData_error hfind, rfl⟩
  | ok i =>
    cases hrxq : (inst.localmbxData i).rxq with
    | none => exact ⟨ITC_QUEUE_NULL, by decide, by simp only [hrxq]⟩
    | some rxq =>
      have hmem : mem = false := by
        cases mem with
        | false => rfl
        | true => exact absurd ⟨rfl, i, hfind, by rw [hrxq]; exact Option.some_ne_none rxq⟩ h
      have hself : inst.setRxq i rxq = inst := by
        obtain ⟨my, mask, localMask, nr, allocated, data⟩ := inst
        simp only [LocalInst.setRxq, LocalInst.setData, LocalInst.mk.injEq, true_and]
        funext j
        by_cases hj : j = i
        · rw [if_pos hj, hj, ← hrxq]
        · rw [if_neg hj]
      refine ⟨ITC_SYSCALL_ERROR, by decide, ?_⟩
      simp only [hrxq, hmem, enqueueMessage, Bool.false_eq_true, not_false_eq_true, if_true, bind,
        Except.bind, hself]
      rfl

section Operations

variable {inst : LocalInst} {q : Queues} {heap : Heap ItcMessage} {mboxId : MboxId} {i : Nat}
  (h : inst.Holds q) (hfind : findLocalmbxData inst mboxId = .ok i)

include h hfind

theorem localCreateMbox_spec (flags : UInt32) (hq : q i = none) :
    localCreateMbox inst mboxId flags =
        (ITC_OK, inst.setData i ⟨mboxId, flags, some initQueue⟩) ∧
      (inst.setData i ⟨mboxId, flags, some initQueue⟩).Holds (Function.update q i (some [])) := by
  have hi := h i
  rw [hq] at hi
  refine ⟨?_, h.setData i RxQueue.holds_initQueue⟩
  simp only [localCreateMbox, hfind, hi.of_none]

/-- **`local_send` appends to the queue of the mailbox.** -/
theorem localSend_spec {p : Nat} {l : List Nat} {m : UserMessage} (hq : q i = some l)
    (hm : heap.cells p = some m.msg) :
    ∃ rxq heap', localSend true inst heap p mboxId = .ok (ITC_OK, inst.setRxq i rxq, heap') ∧
      (inst.setRxq i rxq).Holds (Function.update q i (some (l ++ [p]))) ∧
      heap'.cells p = some m.queued ∧ (∀ p', p' ≠ p → heap'.cells p' = heap.cells p') ∧
      heap'.next = heap.next := by
  have hi := h i
  rw [hq] at hi
  obtain ⟨rxq, hrxq, hholds⟩ := hi.of_some
  obtain ⟨rxq', heap', henq, hholds', hself, hframe, hnext⟩ := enqueueMessage_spec hholds hm
  refine ⟨rxq', heap', ?_, h.setRxq i hholds', ?_, hframe, hnext⟩
  · simp only [localSend, hfind, hrxq, henq, bind, Except.bind]
    rfl
  · rw [hself, m.flags_enqueue]

theorem localReceive_nil (heap : Heap ItcMessage) (hq : q i = some []) :
    ∃ rxq, localReceive inst heap mboxId =
        .ok (ITC_QUEUE_EMPTY, none, inst.setRxq i rxq, heap) ∧
      (inst.setRxq i rxq).Holds q := by
  have hi := h i
  rw [hq] at hi
  obtain ⟨rxq, hrxq, hholds⟩ := hi.of_some
  refine ⟨rxq, ?_, ?_⟩
  · simp only [localReceive, hfind, hrxq, dequeueMessage_nil hholds, bind, Except.bind]
    rfl
  · have hset := h.setRxq i hholds
    rwa [← hq, Function.update_eq_self] at hset

/-- **`local_receive` takes the oldest message of the mailbox.** -/
theorem localReceive_cons {p : Nat} {l : List Nat} {m : UserMessage} (hq : q i = some (p :: l))
    (hm : heap.cells p = some m.queued) :
    ∃ rxq heap', localReceive inst heap mboxId =
        .ok (ITC_OK, some p, inst.setRxq i rxq, heap') ∧
      (inst.setRxq i rxq).Holds (Function.update q i (some l)) ∧
      heap'.cells p = some m.msg ∧ (∀ p', p' ≠ p → heap'.cells p' = heap.cells p') ∧
      heap'.next = heap.next := by
  have hi := h i
  rw [hq] at hi
  obtain ⟨rxq, hrxq, hholds⟩ := hi.of_some
  obtain ⟨rxq', heap', hdeq, hholds', hself, hframe, hnext⟩ := dequeueMessage_cons hholds hm
  refine ⟨rxq', heap', ?_, h.setRxq i hholds', ?_, hframe, hnext⟩
  · simp only [localReceive, hfind, hrxq, hdeq, bind, Except.bind]
    rfl
  · rw [hself, m.flags_dequeue]

end Operations

/-- Discarding frees every message of the queue, once, and nothing else. -/
theorem discardMessages_spec {rxq : RxQueue} {l : List Nat} {heap : Heap ItcMessage}
    (h : rxq.Holds l) (hnd : l.Nodup)
    (hlive : ∀ p ∈ l, ∃ m : UserMessage, heap.cells p = some m.queued) {fuel : Nat}
    (hfuel : l.length < fuel) :
    ∃ heap', discardMessages fuel ITC_OK rxq heap = .ok (some (ITC_QUEUE_EMPTY, heap')) ∧
      (∀ p ∈ l, heap'.cells p = none) ∧ (∀ p, p ∉ l → heap'.cells p = heap.cells p) ∧
      heap'.next = heap.next := by
  induction l generalizing rxq heap fuel with
  | nil =>
    cases fuel with
    | zero => cases hfuel
    | succ fuel =>
      refine ⟨heap, ?_, by simp, fun _ _ => rfl, rfl⟩
      simp only [discardMessages, dequeueMessage_nil h, bind, Except.bind]
      rfl
  | cons p l ih =>
    cases fuel with
    | zero => cases hfuel
    | succ fuel =>
      obtain ⟨hp, hnd⟩ := List.nodup_cons.mp hnd
      obtain ⟨m, hm⟩ := hlive p List.mem_cons_self
      obtain ⟨rxq₁, heap₁, hdeq, hholds₁, hself₁, hframe₁, hnext₁⟩ := dequeueMessage_cons h hm
      rw [m.flags_dequeue] at hself₁
      obtain ⟨heap₂, hfree, hdead, hframe₂, hnext₂⟩ := itcFreeZz_user hself₁
      have hlive₂ : ∀ p' ∈ l, ∃ m : UserMessage, heap₂.cells p' = some m.queued := by
        intro p' hp'
        have hne : p' ≠ p := fun heq => hp (heq ▸ hp')
        rw [hframe₂ p' hne, hframe₁ p' hne]
        exact hlive p' (List.mem_cons_of_mem _ hp')
      obtain ⟨heap', hrest, hdead', hframe', hnext'⟩ :=
        ih hholds₁ hnd hlive₂ (by simpa using hfuel)
      refine ⟨heap', ?_, ?_, ?_, by rw [hnext', hnext₂, hnext₁]⟩
      · simp only [discardMessages, hdeq, hfree, bind, Except.bind]
        exact hrest
      · intro p' hp'
        rcases List.mem_cons.mp hp' with rfl | hp'
        · rw [hframe' _ hp, hdead]
        · exact hdead' p' hp'
      · intro p' hp'
        rw [List.mem_cons, not_or] at hp'
        rw [hframe' p' hp'.2, hframe₂ p' hp'.1, hframe₁ p' hp'.1]

/-- With too little fuel the loop is still running. -/
theorem discardMessages_running {rxq : RxQueue} {l : List Nat} {heap : Heap ItcMessage}
    (h : rxq.Holds l) (hnd : l.Nodup)
    (hlive : ∀ p ∈ l, ∃ m : UserMessage, heap.cells p = some m.queued) {fuel : Nat}
    (hfuel : fuel ≤ l.length) (rc : UInt32) : discardMessages fuel rc rxq heap = .ok none := by
  induction l generalizing rxq heap fuel rc with
  | nil =>
    rw [Nat.le_zero.mp hfuel]
    rfl
  | cons p l ih =>
    cases fuel with
    | zero => rfl
    | succ fuel =>
      obtain ⟨hp, hnd⟩ := List.nodup_cons.mp hnd
      obtain ⟨m, hm⟩ := hlive p List.mem_cons_self
      obtain ⟨rxq₁, heap₁, hdeq, hholds₁, hself₁, hframe₁, -⟩ := dequeueMessage_cons h hm
      rw [m.flags_dequeue] at hself₁
      obtain ⟨heap₂, hfree, -, hframe₂, -⟩ := itcFreeZz_user hself₁
      have hlive₂ : ∀ p' ∈ l, ∃ m : UserMessage, heap₂.cells p' = some m.queued := by
        intro p' hp'
        have hne : p' ≠ p := fun heq => hp (heq ▸ hp')
        rw [hframe₂ p' hne, hframe₁ p' hne]
        exact hlive p' (List.mem_cons_of_mem _ hp')
      simp only [discardMessages, hdeq, hfree, bind, Except.bind]
      exact ih hholds₁ hnd hlive₂ (Nat.le_of_succ_le_succ hfuel) _

/-- What `local_delete_mbox` leaves of the messages `l` of mailbox `i`. -/
structure LocalDeleted (inst : LocalInst) (q : Queues) (heap : Heap ItcMessage) (i : Nat)
    (l : List Nat) (r : UInt32 × LocalInst × Heap ItcMessage) : Prop where
  rc : r.1 = ITC_OK
  inst : r.2.1 = inst.setData i ⟨0, 0, none⟩
  holds : r.2.1.Holds (Function.update q i none)
  freed : ∀ p ∈ l, r.2.2.cells p = none
  frame : ∀ p, p ∉ l → r.2.2.cells p = heap.cells p
  next : r.2.2.next = heap.next

/-- **`local_delete_mbox` frees the messages of the mailbox and its queue.** -/
theorem localDeleteMbox_returns {inst : LocalInst} {q : Queues} {heap : Heap ItcMessage}
    {mboxId : MboxId} {i : Nat} {l : List Nat} (h : inst.Holds q)
    (hfind : findLocalmbxData inst mboxId = .ok i) (hq : q i = some l) (hnd : l.Nodup)
    (hlive : ∀ p ∈ l, ∃ m : UserMessage, heap.cells p = some m.queued) (fuel : Nat) :
    Returns (localDeleteMbox fuel inst heap mboxId) (LocalDeleted inst q heap i l) := by
  have hi := h i
  rw [hq] at hi
  obtain ⟨rxq, hrxq, hholds⟩ := hi.of_some
  simp only [localDeleteMbox, hfind, hrxq, bind, Except.bind]
  rcases Nat.lt_or_ge l.length fuel with hfuel | hfuel
  · obtain ⟨heap', hdiscard, hfreed, hframe, hnext⟩ := discardMessages_spec hholds hnd hlive hfuel
    rw [hdiscard]
    exact .result ⟨rfl, rfl, h.setData i trivial, hfreed, hframe, hnext⟩
  · rw [discardMessages_running hholds hnd hlive hfuel]
    exact .running

end ItcFramework
