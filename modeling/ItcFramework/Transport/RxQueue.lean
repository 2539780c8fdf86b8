import ItcFramework.Lib.Heap
import ItcFramework.Lib.LinkedChain
import ItcFramework.Itc.Message

/-!
# The rx queue of the local transport

Embedding of `struct rxqueue` and of `enqueue_message` and `dequeue_message` (`itc_local.c`): a
doubly linked list of items on the heap, each with a pointer to a message.

* `RxQueue.Holds q l` — the queue holds the messages `l`.
* `enqueueMessage_spec`, `dequeueMessage_spec` — the two operations are those of a FIFO list;
  they follow no pointer to a freed item, and mark and unmark the message.
-/

set_option autoImplicit false

namespace ItcFramework

open ByteImage HeapModel LinkedChain

/-- `struct llqueue_item`. -/
structure LlqueueItem where
  msgItem : Nat
  next : Option Nat
  prev : Option Nat
  deriving DecidableEq, Repr

/-- `struct rxqueue` with the items that it alone reaches. -/
structure RxQueue where
  items : Heap LlqueueItem
  head : Option Nat
  tail : Option Nat

/-- `init_queue`. -/
def initQueue : RxQueue := ⟨.empty, none, none⟩

/-- The message gets or loses its mark `ITC_FLAGS_MSG_INRXQUEUE`. -/
def setInRxqueue (heap : Heap ItcMessage) (message : Nat) (inRxqueue : Bool) :
    Except MemFault (Heap ItcMessage) := do
  let m ← heap.read message
  heap.write message { m with
    flags :=
      if inRxqueue then m.flags ||| ITC_FLAGS_MSG_INRXQUEUE
      else m.flags &&& ~~~ITC_FLAGS_MSG_INRXQUEUE }

/-- `enqueue_message`; `mem` is what the `malloc` of `create_qitem` answers, and the first
component the flags added to `rc`. -/
def enqueueMessage (mem : Bool) (q : RxQueue) (heap : Heap ItcMessage) (message : Nat) :
    Except MemFault (UInt32 × RxQueue × Heap ItcMessage) :=
  if ¬ mem then .ok (ITC_SYSCALL_ERROR, q, heap) else do
  let (new, items) := q.items.alloc ⟨message, none, none⟩
  let q ← match q.tail with
    | none => pure { items, head := some new, tail := some new : RxQueue }
    | some tail => do
        let item ← items.read tail
        let items ← items.write tail { item with next := some new }
        let item ← items.read new
        let items ← items.write new { item with prev := some tail }
        pure { q with items, tail := some new }
  let heap ← setInRxqueue heap message true
  return (ITC_OK, q, heap)

/-- What `dequeue_message` gives: the flags it adds to `rc`, and the message. -/
structure Dequeued where
  rc : UInt32
  message : Option Nat
  q : RxQueue
  heap : Heap ItcMessage

def dequeueMessage (q : RxQueue) (heap : Heap ItcMessage) : Except MemFault Dequeued :=
  match q.head with
  | none => .ok ⟨ITC_QUEUE_EMPTY, none, q, heap⟩
  | some head => do
      let item ← q.items.read head
      let message := item.msgItem
      if q.tail = some head then
        let items ← q.items.free head
        let heap ← setInRxqueue heap message false
        return ⟨ITC_OK, some message, ⟨items, none, none⟩, heap⟩
      else
        match item.next with
        | none => throw .nullDeref
        | some second =>
            let item ← q.items.read second
            match item.prev with
            | none =>
                let heap ← setInRxqueue heap message false
                return ⟨ITC_FREE_NULL_PTR, some message, { q with head := some second }, heap⟩
            | some prev =>
                let items ← q.items.free prev
                let items ← items.write second { item with prev := none }
                let heap ← setInRxqueue heap message false
                return ⟨ITC_OK, some message, { q with items, head := some second }, heap⟩

/-! ## The queue as a list -/

namespace RxQueue

def next (q : RxQueue) (i : Nat) : Option Nat := (q.items.cells i).bind LlqueueItem.next

def prev (q : RxQueue) (i : Nat) : Option Nat := (q.items.cells i).bind LlqueueItem.prev

/-- The items `c`, each with its message, are linked in both directions from head to tail. -/
structure Chain (q : RxQueue) (c : List (Nat × Nat)) : Prop where
  threaded : Threaded q.head q.tail q.next (c.map Prod.fst)
  back : Linked q.prev (c.map Prod.fst).reverse
  items : ∀ p ∈ c, ∃ item, q.items.cells p.1 = some item ∧ item.msgItem = p.2
  /-- No item has been left behind. -/
  live : ∀ i item, q.items.cells i = some item → i ∈ c.map Prod.fst

/-- The queue holds the messages `l`, oldest first. -/
def Holds (q : RxQueue) (l : List Nat) : Prop := ∃ c, q.Chain c ∧ c.map Prod.snd = l

/-- A queue holds one sequence of messages. -/
theorem Holds.unique {q : RxQueue} {l l' : List Nat} (h : q.Holds l) (h' : q.Holds l') :
    l = l' := by
  obtain ⟨c, hc, rfl⟩ := h
  obtain ⟨c', hc', rfl⟩ := h'
  have hitem : ∀ {c : List (Nat × Nat)}, q.Chain c →
      c.map Prod.snd = (c.map Prod.fst).map fun i => (q.items.cells i).elim 0 LlqueueItem.msgItem := by
    intro c hc
    rw [List.map_map]
    apply List.map_congr_left
    intro p hp
    obtain ⟨item, hcell, hmsg⟩ := hc.items p hp
    rw [Function.comp_apply, hcell, Option.elim_some, hmsg]
  rw [hitem hc, hitem hc', hc.threaded.unique hc'.threaded]

theorem holds_initQueue : initQueue.Holds [] :=
  ⟨[], ⟨.nil _, trivial, by simp, fun _ _ h => by cases h⟩, rfl⟩

end RxQueue

/-- Marking a live message writes its flags and nothing else. -/
theorem setInRxqueue_spec {heap : Heap ItcMessage} {message : Nat} {m : ItcMessage}
    (h : heap.cells message = some m) (inRxqueue : Bool) :
    ∃ heap', setInRxqueue heap message inRxqueue = .ok heap' ∧
      heap'.cells message = some { m with
        flags :=
          if inRxqueue then m.flags ||| ITC_FLAGS_MSG_INRXQUEUE
          else m.flags &&& ~~~ITC_FLAGS_MSG_INRXQUEUE } ∧
      (∀ p, p ≠ message → heap'.cells p = heap.cells p) ∧ heap'.next = heap.next := by
  obtain ⟨heap', hwrite, hself, hframe, hnext⟩ := Heap.write_of_live h
  refine ⟨heap', ?_, hself, hframe, hnext⟩
  simp only [setInRxqueue, Heap.read_of_live h, bind, Except.bind]
  exact hwrite

/-- **`enqueue_message` appends.** -/
theorem enqueueMessage_spec {q : RxQueue} {l : List Nat} {heap : Heap ItcMessage} {message : Nat}
    {m : ItcMessage} (h : q.Holds l) (hm : heap.cells message = some m) :
    ∃ q' heap', enqueueMessage true q heap message = .ok (ITC_OK, q', heap') ∧ q'.Holds (l ++ [message]) ∧
      heap'.cells message = some { m with flags := m.flags ||| ITC_FLAGS_MSG_INRXQUEUE } ∧
      (∀ p, p ≠ message → heap'.cells p = heap.cells p) ∧ heap'.next = heap.next := by
  obtain ⟨c, hc, rfl⟩ := h
  obtain ⟨heap', hmark, hself, hframe, hnext⟩ := setInRxqueue_spec hm true
  rw [if_pos rfl] at hself
  have hnew : ∀ i ∈ c.map Prod.fst, i ≠ q.items.next := by
    intro i hi
    obtain ⟨p, hp, rfl⟩ := List.mem_map.mp hi
    obtain ⟨item, hitem, -⟩ := hc.items p hp
    exact Nat.ne_of_lt (Heap.lt_next hitem)
  have hfresh : q.items.next ∉ c.map Prod.fst := fun hmem => hnew _ hmem rfl
  have hcell := Heap.push_next q.items ⟨message, none, none⟩
  cases ht : q.tail with
  | none =>
    have hnil : c = [] := List.map_eq_nil_iff.mp (hc.threaded.tail_none_iff.mp ht)
    subst hnil
    refine ⟨⟨q.items.push ⟨message, none, none⟩, some q.items.next, some q.items.next⟩, heap', ?_,
      ⟨[(q.items.next, message)], ⟨?_, ?_, ?_, ?_⟩, rfl⟩, hself, hframe, hnext⟩
    · simp only [enqueueMessage, not_true_eq_false, if_false, Heap.alloc, ht, hmark, bind, Except.bind]
      rfl
    · exact .first (by rw [RxQueue.next, hcell]; rfl)
    · exact ⟨by rw [RxQueue.prev, hcell]; rfl, trivial⟩
    · intro p hp
      rw [List.mem_singleton.mp hp]
      exact ⟨_, hcell, rfl⟩
    · intro i item hi
      by_cases hin : i = q.items.next
      · rw [hin]
        exact List.mem_cons_self
      · exact absurd (hc.live i item ((Heap.push_of_ne _ _ hin).symm.trans hi)) List.not_mem_nil
  | some t =>
    have htc : t ∈ c.map Prod.fst := List.mem_of_getLast? (by rw [← hc.threaded.tail_eq, ht])
    obtain ⟨⟨t', mt⟩, hpt, rfl⟩ := List.mem_map.mp htc
    obtain ⟨item, hitem, hmsg⟩ := hc.items _ hpt
    have hitem₁ := Heap.push_of_live (b := ⟨message, none, none⟩) hitem
    obtain ⟨items₂, hw₂, hs₂, hf₂, -⟩ := Heap.write_of_live
      (b := { item with next := some q.items.next }) hitem₁
    have hnew₂ : items₂.cells q.items.next = some ⟨message, none, none⟩ := by
      rw [hf₂ _ (hnew t' htc).symm, hcell]
    obtain ⟨items₃, hw₃, hs₃, hf₃, -⟩ := Heap.write_of_live
      (b := ⟨message, none, some t'⟩) hnew₂
    have htail₃ : items₃.cells t' = some { item with next := some q.items.next } := by
      rw [hf₃ _ (hnew t' htc), hs₂]
    have hold₃ : ∀ i ∈ c.map Prod.fst, i ≠ t' → items₃.cells i = q.items.cells i := by
      intro i hi hit
      rw [hf₃ _ (hnew i hi), hf₂ _ hit, Heap.push_of_ne _ _ (hnew i hi)]
    refine ⟨⟨items₃, q.head, some q.items.next⟩, heap', ?_,
      ⟨c ++ [(q.items.next, message)], ⟨?_, ?_, ?_, ?_⟩, by simp⟩, hself, hframe, hnext⟩
    · simp only [enqueueMessage, not_true_eq_false, if_false, Heap.alloc, ht, Heap.read_of_live hitem₁, hw₂,
        Heap.read_of_live hnew₂, hw₃, hmark, bind, Except.bind]
      rfl
    · have hthr := hc.threaded
      rw [ht] at hthr
      rw [List.map_append]
      refine hthr.push hfresh ?_ ?_ fun y hy hyt => ?_
      · rw [RxQueue.next, htail₃]
        rfl
      · rw [RxQueue.next, hs₃]
        rfl
      · rw [RxQueue.next, hold₃ y hy hyt, RxQueue.next]
    · rw [List.map_append, List.map_singleton, List.reverse_append]
      refine ⟨?_, hc.back.congr fun y hy => ?_⟩
      · rw [RxQueue.prev, hs₃, show ([].append (c.map Prod.fst).reverse).head? = _ from
            List.head?_reverse, ← hc.threaded.tail_eq, ht]
        rfl
      · rw [List.mem_reverse] at hy
        by_cases hyt : y = t'
        · rw [hyt, RxQueue.prev, htail₃, RxQueue.prev, hitem]
          rfl
        · rw [RxQueue.prev, hold₃ y hy hyt, RxQueue.prev]
    · intro p hp
      rcases List.mem_append.mp hp with hp | hp
      · obtain ⟨it, hit, hmsgp⟩ := hc.items p hp
        by_cases hpt' : p.1 = t'
        · rw [hpt', hitem] at hit
          cases hit
          exact ⟨{ item with next := some q.items.next }, by rw [hpt']; exact htail₃, hmsgp⟩
        · exact ⟨it, (hold₃ _ (List.mem_map_of_mem hp) hpt').trans hit, hmsgp⟩
      · rw [List.mem_singleton.mp hp]
        exact ⟨_, hs₃, rfl⟩
    · intro i it hi
      rw [List.map_append, List.map_singleton, List.mem_append, List.mem_singleton]
      by_cases hin : i = q.items.next
      · exact .inr hin
      · by_cases hit : i = t'
        · rw [hit]
          exact .inl htc
        · rw [hf₃ _ hin, hf₂ _ hit, Heap.push_of_ne _ _ hin] at hi
          exact .inl (hc.live i it hi)

/-- `dequeue_message` on an empty queue. -/
theorem dequeueMessage_nil {q : RxQueue} (h : q.Holds []) (heap : Heap ItcMessage) :
    dequeueMessage q heap = .ok ⟨ITC_QUEUE_EMPTY, none, q, heap⟩ := by
  obtain ⟨c, hc, hmap⟩ := h
  have hnil : c = [] := List.map_eq_nil_iff.mp hmap
  subst hnil
  have hhead : q.head = none := hc.threaded.head_eq
  rw [dequeueMessage, hhead]

/-- **`dequeue_message` takes the oldest message.** -/
theorem dequeueMessage_cons {q : RxQueue} {l : List Nat} {heap : Heap ItcMessage} {message : Nat}
    {m : ItcMessage} (h : q.Holds (message :: l)) (hm : heap.cells message = some m) :
    ∃ q' heap', dequeueMessage q heap = .ok ⟨ITC_OK, some message, q', heap'⟩ ∧ q'.Holds l ∧
      heap'.cells message = some { m with flags := m.flags &&& ~~~ITC_FLAGS_MSG_INRXQUEUE } ∧
      (∀ p, p ≠ message → heap'.cells p = heap.cells p) ∧ heap'.next = heap.next := by
  obtain ⟨c, hc, hmap⟩ := h
  obtain ⟨heap', hmark, hself, hframe, hnext⟩ := setInRxqueue_spec hm false
  rw [if_neg Bool.false_ne_true] at hself
  cases c with
  | nil => cases hmap
  | cons p c =>
    obtain ⟨i, mi⟩ := p
    obtain ⟨rfl, rfl⟩ := List.cons.inj hmap
    obtain ⟨item, hitem, hmsg⟩ := hc.items (i, mi) List.mem_cons_self
    have hhead : q.head = some i := hc.threaded.head_eq
    obtain ⟨items₁, hfree, hdead, hf₁, -⟩ := Heap.free_of_live hitem
    have hthr := hc.threaded
    rw [hhead] at hthr
    have hnd := List.nodup_cons.mp hc.threaded.nodup
    have hleft : ∀ j ∈ c.map Prod.fst, j ≠ i := fun j hj heq => hnd.1 (heq ▸ hj)
    by_cases ht : q.tail = some i
    · rw [ht] at hthr
      have hnil : c = [] := by
        have := hthr.last
        rw [List.map_cons, List.cons.injEq] at this
        exact List.map_eq_nil_iff.mp this.2
      subst hnil
      refine ⟨⟨items₁, none, none⟩, heap', ?_, ⟨[], ⟨.nil _, trivial, by simp, ?_⟩, rfl⟩, hself,
        hframe, hnext⟩
      · simp only [dequeueMessage, hhead, Heap.read_of_live hitem, ht, if_true, hfree, hmsg, hmark,
          bind, Except.bind]
        rfl
      · intro k it hk
        by_cases hki : k = i
        · rw [hki, hdead] at hk
          cases hk
        · rw [hf₁ k hki] at hk
          exact absurd (List.mem_singleton.mp (hc.live k it hk)) hki
    · cases c with
      | nil => exact absurd hc.threaded.tail_eq ht
      | cons p c =>
        obtain ⟨j, mj⟩ := p
        obtain ⟨item₂, hitem₂, hmsg₂⟩ := hc.items (j, mj) (by simp)
        have hji : j ≠ i := hleft j (by simp)
        have hinext : item.next = some j := by
          have := hthr.linked.1
          rwa [RxQueue.next, hitem] at this
        have hjprev : item₂.prev = some i := by
          have hback := hc.back
          simp only [List.map_cons, List.reverse_cons, List.append_assoc] at hback
          have hlast : ∀ l' : List Nat, Linked q.prev (l' ++ ([j] ++ [i])) → q.prev j = some i := by
            intro l' hl'
            induction l' with
            | nil => exact hl'.1
            | cons _ _ ih => exact ih hl'.2
          have := hlast _ hback
          rwa [RxQueue.prev, hitem₂] at this
        have hitem₂' : items₁.cells j = some item₂ := by rw [hf₁ j hji, hitem₂]
        obtain ⟨items₂, hw, hs, hf₂, -⟩ := Heap.write_of_live (b := { item₂ with prev := none })
          hitem₂'
        have hkeep : ∀ k, k ≠ i → k ≠ j → items₂.cells k = q.items.cells k := by
          intro k hki hkj
          rw [hf₂ k hkj, hf₁ k hki]
        refine ⟨⟨items₂, some j, q.tail⟩, heap', ?_, ⟨(j, mj) :: c, ⟨?_, ?_, ?_, ?_⟩, rfl⟩, hself,
          hframe, hnext⟩
        · simp only [dequeueMessage, hhead, Heap.read_of_live hitem, if_neg ht, hinext,
            Heap.read_of_live hitem₂, hjprev, hfree, hw, hmsg, hmark, bind, Except.bind]
          rfl
        · have hnext' : ∀ y, y ≠ i → RxQueue.next ⟨items₂, some j, q.tail⟩ y = q.next y := by
            intro y hy
            by_cases hyj : y = j
            · rw [hyj, RxQueue.next, hs, RxQueue.next, hitem₂]
              rfl
            · rw [RxQueue.next, hkeep y hy hyj, RxQueue.next]
          obtain ⟨l', hl', hpop⟩ := hthr.pop (Ne.symm ht) hnext'
          cases hl'
          have hji' : q.next i = some j := by rw [RxQueue.next, hitem]; exact hinext
          rw [hji'] at hpop
          exact hpop
        · have hback := hc.back
          rw [List.map_cons, List.reverse_cons] at hback
          refine hback.dropLast (List.nodup_reverse.mpr hnd.2) (t := j) (by simp) ?_ ?_
          · rw [RxQueue.prev, hs]
            rfl
          · intro y hy hyj
            rw [RxQueue.prev, hkeep y (hleft y (List.mem_reverse.mp hy)) hyj, RxQueue.prev]
        · intro p hp
          obtain ⟨it, hit, hmsgp⟩ := hc.items p (List.mem_cons_of_mem _ hp)
          have hpi : p.1 ≠ i := hleft p.1 (List.mem_map_of_mem hp)
          by_cases hpj : p.1 = j
          · rw [hpj, hitem₂] at hit
            cases hit
            exact ⟨{ item₂ with prev := none }, by rw [hpj]; exact hs, hmsgp⟩
          · exact ⟨it, (hkeep _ hpi hpj).trans hit, hmsgp⟩
        · intro k it hk
          by_cases hkj : k = j
          · rw [hkj]
            exact List.mem_cons_self
          · have hki : k ≠ i := by
              intro hki
              rw [hf₂ k hkj, hki, hdead] at hk
              cases hk
            rw [hkeep k hki hkj] at hk
            rcases List.mem_cons.mp (hc.live k it hk) with hk | hk
            · exact absurd hk hki
            · exact hk

end ItcFramework
