import ItcFramework.Transport.Local
import ItcFramework.Lib.Transition

/-!
# Taking a message out of an rx queue

Embedding of `local_remove` and `remove_message_fromqueue` (`itc_local.c`). The removal walks the
`next` links and mends only these, while `dequeue_message` frees the old head through the `prev`
link of the second item.

* `ListStep` — what the three operations should be: those of an ordered list of messages.
* `localRemove_last`, `localRemove_absent` — removing the last message, or none, keeps the links.
* `rxqueue_is_list` — as long as only these are removed, every run is a run of the list.
-/

set_option autoImplicit false

namespace ItcFramework

open ByteImage HeapModel LinkedChain Transition

/-! ## Functions -/

/-- The walk of `remove_message_fromqueue`: the item with the message and the one before it, on
`fuel` items; `none` while it still walks. -/
def findQitem : Nat → Heap LlqueueItem → Nat → Option Nat → Option Nat →
    Except MemFault (Option (Option Nat × Option Nat))
  | 0, _, _, _, _ => .ok none
  | _ + 1, _, _, prev, none => .ok (some (prev, none))
  | fuel + 1, items, message, prev, some iter => do
      let item ← items.read iter
      if item.msgItem = message then return some (prev, some iter)
      findQitem fuel items message (some iter) item.next

def removeMessageFromqueue (fuel : Nat) (q : RxQueue) (heap : Heap ItcMessage) (message : Nat) :
    Except MemFault (Option Dequeued) := do
  let some (prev, iter) ← findQitem fuel q.items message none q.head | return none
  match iter with
  | none => return some ⟨ITC_QUEUE_EMPTY, none, q, heap⟩
  | some iter =>
      let item ← q.items.read iter
      let q ← if q.head = some iter then
          pure { q with head := item.next, tail := if item.next = none then none else q.tail }
        else do
          let prev ← deref prev
          let before ← q.items.read prev
          let items ← q.items.write prev { before with next := item.next }
          pure { q with items, tail := if q.tail = some iter then some prev else q.tail }
      let heap ← setInRxqueue heap item.msgItem false
      let items ← q.items.free iter
      return some ⟨ITC_OK, some item.msgItem, { q with items }, heap⟩

def localRemove (fuel : Nat) (inst : LocalInst) (heap : Heap ItcMessage) (mboxId : MboxId)
    (message : Nat) : Except MemFault (Option (UInt32 × Option Nat × LocalInst × Heap ItcMessage)) :=
  match findLocalmbxData inst mboxId with
  | .error rc => .ok (some (rc, none, inst, heap))
  | .ok i =>
      match (inst.localmbxData i).rxq with
      | none => .ok (some (ITC_QUEUE_NULL, none, inst, heap))
      | some q => do
          let some d ← removeMessageFromqueue fuel q heap message | return none
          return some (d.rc, d.message, inst.setRxq i d.q, d.heap)

/-! ## The walk -/

/-- The items of `c` can be read, and their `next` links lead along `c`. -/
structure Walkable (items : Heap LlqueueItem) (c : List (Nat × Nat)) : Prop where
  linked : Linked (fun i => (items.cells i).bind LlqueueItem.next) (c.map Prod.fst)
  items : ∀ p ∈ c, ∃ item, items.cells p.1 = some item ∧ item.msgItem = p.2

theorem Walkable.tail {items : Heap LlqueueItem} {p : Nat × Nat} {c : List (Nat × Nat)}
    (h : Walkable items (p :: c)) : Walkable items c :=
  ⟨h.linked.2, fun p' hp' => h.items p' (List.mem_cons_of_mem _ hp')⟩

theorem Walkable.next {items : Heap LlqueueItem} {p : Nat × Nat} {c : List (Nat × Nat)}
    (h : Walkable items (p :: c)) {item : LlqueueItem} (hitem : items.cells p.1 = some item) :
    item.next = (c.map Prod.fst).head? := by
  have hlink : (items.cells p.1).bind LlqueueItem.next = (c.map Prod.fst).head? := h.linked.1
  rwa [hitem] at hlink

section Walk

variable {items : Heap LlqueueItem} {message : Nat}

theorem findQitem_absent {c : List (Nat × Nat)} (h : Walkable items c)
    (hnot : message ∉ c.map Prod.snd) {fuel : Nat} (hfuel : c.length < fuel) (prev : Option Nat) :
    ∃ prev', findQitem fuel items message prev (c.map Prod.fst).head? =
      .ok (some (prev', none)) := by
  induction c generalizing fuel prev with
  | nil =>
    cases fuel with
    | zero => cases hfuel
    | succ fuel => exact ⟨prev, rfl⟩
  | cons p c ih =>
    obtain ⟨item, hitem, hmsg⟩ := h.items p List.mem_cons_self
    rw [List.map_cons, List.mem_cons, not_or] at hnot
    have hne : ¬ item.msgItem = message := fun heq => hnot.1 (heq ▸ hmsg)
    have hnext : item.next = (c.map Prod.fst).head? := h.next hitem
    cases fuel with
    | zero => cases hfuel
    | succ fuel =>
      obtain ⟨prev', hwalk⟩ := ih h.tail hnot.2 (Nat.lt_of_succ_lt_succ hfuel) (some p.1)
      refine ⟨prev', ?_⟩
      simp only [List.map_cons, List.head?_cons, findQitem, Heap.read_of_live hitem, bind,
        Except.bind, if_neg hne, hnext, hwalk]

theorem findQitem_last {c : List (Nat × Nat)} {i : Nat} (h : Walkable items (c ++ [(i, message)]))
    (hnot : message ∉ c.map Prod.snd) {fuel : Nat} (hfuel : c.length < fuel) (prev : Option Nat) :
    findQitem fuel items message prev ((c ++ [(i, message)]).map Prod.fst).head? =
      .ok (some ((c.map Prod.fst).getLast?.or prev, some i)) := by
  induction c generalizing fuel prev with
  | nil =>
    obtain ⟨item, hitem, hmsg⟩ := h.items (i, message) List.mem_cons_self
    cases fuel with
    | zero => cases hfuel
    | succ fuel =>
      simp only [List.nil_append, List.map_cons, List.head?_cons, findQitem,
        Heap.read_of_live hitem, bind, Except.bind, if_pos hmsg]
      rfl
  | cons p c ih =>
    obtain ⟨item, hitem, hmsg⟩ := h.items p List.mem_cons_self
    rw [List.map_cons, List.mem_cons, not_or] at hnot
    have hne : ¬ item.msgItem = message := fun heq => hnot.1 (heq ▸ hmsg)
    have hnext : item.next = ((c ++ [(i, message)]).map Prod.fst).head? := h.next hitem
    cases fuel with
    | zero => cases hfuel
    | succ fuel =>
      have hwalk := ih h.tail hnot.2 (Nat.lt_of_succ_lt_succ hfuel) (some p.1)
      simp only [List.cons_append, List.map_cons, List.head?_cons, findQitem,
        Heap.read_of_live hitem, bind, Except.bind, if_neg hne, hnext, hwalk,
        List.getLast?_cons, Option.some_or]
      cases (c.map Prod.fst).getLast? <;> rfl

/-- More fuel finds the same. -/
theorem findQitem_mono {fuel fuel' : Nat} (hle : fuel ≤ fuel') {prev iter : Option Nat}
    {found : Option Nat × Option Nat}
    (h : findQitem fuel items message prev iter = .ok (some found)) :
    findQitem fuel' items message prev iter = .ok (some found) := by
  induction fuel generalizing fuel' prev iter with
  | zero => cases h
  | succ fuel ih =>
    cases fuel' with
    | zero => cases hle
    | succ fuel' =>
      cases iter with
      | none => exact h
      | some iter =>
        rw [findQitem] at h ⊢
        cases hread : items.read iter with
        | error e =>
          rw [hread] at h
          cases h
        | ok item =>
          rw [hread] at h
          simp only [bind, Except.bind] at h ⊢
          by_cases hmsg : item.msgItem = message
          · rw [if_pos hmsg] at h ⊢
            exact h
          · rw [if_neg hmsg] at h ⊢
            exact ih (Nat.le_of_succ_le_succ hle) h

end Walk

namespace RxQueue

variable {q : RxQueue} {l : List Nat} {heap : Heap ItcMessage} {message : Nat}

theorem Chain.walkable {c : List (Nat × Nat)} (h : q.Chain c) : Walkable q.items c :=
  ⟨h.threaded.linked, h.items⟩

/-- A message that is not there is not found. -/
theorem Holds.remove_absent (h : q.Holds l) (hnot : message ∉ l) {fuel : Nat}
    (hfuel : l.length < fuel) :
    removeMessageFromqueue fuel q heap message = .ok (some ⟨ITC_QUEUE_EMPTY, none, q, heap⟩) := by
  obtain ⟨c, hc, rfl⟩ := h
  rw [List.length_map] at hfuel
  obtain ⟨prev, hfind⟩ := findQitem_absent hc.walkable hnot hfuel none
  simp only [removeMessageFromqueue, hc.threaded.head_eq, hfind, bind, Except.bind]
  rfl

/-- **Removing the last message** mends every link there is to mend. -/
theorem Holds.remove_last {m : ItcMessage} (h : q.Holds (l ++ [message])) (hnot : message ∉ l)
    (hm : heap.cells message = some m) {fuel : Nat} (hfuel : l.length < fuel) :
    ∃ q' heap', removeMessageFromqueue fuel q heap message =
        .ok (some ⟨ITC_OK, some message, q', heap'⟩) ∧ q'.Holds l ∧
      heap'.cells message = some { m with flags := m.flags &&& ~~~ITC_FLAGS_MSG_INRXQUEUE } ∧
      (∀ p, p ≠ message → heap'.cells p = heap.cells p) ∧ heap'.next = heap.next := by
  obtain ⟨c', hc, hmap⟩ := h
  obtain ⟨c, z, rfl, rfl, hz⟩ := List.map_eq_append_iff.mp hmap
  obtain ⟨⟨i, mi⟩, rfl, hmi⟩ := List.map_eq_singleton_iff.mp hz
  obtain rfl : mi = message := hmi
  rw [List.length_map] at hfuel
  obtain ⟨heap', hmark, hself, hframe, hnext⟩ := setInRxqueue_spec hm false
  rw [if_neg Bool.false_ne_true] at hself
  have hfind := findQitem_last hc.walkable hnot hfuel none
  rw [← hc.threaded.head_eq, Option.or_none] at hfind
  obtain ⟨item, hitem, hmsg⟩ : ∃ item, q.items.cells i = some item ∧ item.msgItem = mi :=
    hc.items (i, mi) (by simp)
  have hthr := hc.threaded
  have hback := hc.back
  rw [List.map_append, List.map_singleton] at hthr hback
  rw [List.reverse_append] at hback
  have hlast : item.next = none := by
    have hnext := hthr.linked.next_last
    rwa [RxQueue.next, hitem] at hnext
  have hleft : ∀ j ∈ c.map Prod.fst, j ≠ i := fun j hj heq =>
    (List.nodup_append.mp hthr.nodup).2.2 j hj i List.mem_cons_self heq
  have htail : q.tail = some i := by rw [hthr.tail_eq, List.getLast?_concat]
  cases ht : (c.map Prod.fst).getLast? with
  | none =>
    -- the message is the only one
    obtain rfl : c = [] := List.map_eq_nil_iff.mp (List.getLast?_eq_none_iff.mp ht)
    have hhead : q.head = some i := hthr.head_eq
    obtain ⟨items₁, hfree, hdead, hf₁, -⟩ := Heap.free_of_live hitem
    refine ⟨⟨items₁, none, none⟩, heap', ?_, ⟨[], ⟨.nil _, trivial, by simp, ?_⟩, rfl⟩, hself,
      hframe, hnext⟩
    · rw [ht, hhead] at hfind
      simp only [removeMessageFromqueue, hhead, hfind, Heap.read_of_live hitem, if_true, hlast,
        hfree, hmsg, hmark, bind, Except.bind, pure, Except.pure]
    · intro k it hk
      by_cases hki : k = i
      · rw [hki, hdead] at hk
        cases hk
      · rw [hf₁ k hki] at hk
        exact absurd (List.mem_singleton.mp (hc.live k it hk)) hki
  | some t =>
    have htc : t ∈ c.map Prod.fst := List.mem_of_getLast? ht
    have hti : t ≠ i := hleft t htc
    obtain ⟨⟨t', mt⟩, hpt, rfl⟩ := List.mem_map.mp htc
    obtain ⟨before, hbefore, -⟩ : ∃ item, q.items.cells t' = some item ∧ item.msgItem = mt :=
      hc.items (t', mt) (List.mem_append_left _ hpt)
    have hhead : q.head ≠ some i := by
      intro hhead
      rw [hhead] at hthr
      cases c with
      | nil => cases hpt
      | cons p c => exact hleft p.1 (by simp) (Option.some.inj hthr.head_eq).symm
    obtain ⟨items₁, hwrite, hs₁, hf₁, -⟩ := Heap.write_of_live
      (b := { before with next := none }) hbefore
    have hitem₁ : items₁.cells i = some item := by rw [hf₁ i hti.symm, hitem]
    obtain ⟨items₂, hfree, hdead, hf₂, -⟩ := Heap.free_of_live hitem₁
    have htail₂ : items₂.cells t' = some { before with next := none } := by rw [hf₂ t' hti, hs₁]
    have hkeep : ∀ j ∈ c.map Prod.fst, j ≠ t' → items₂.cells j = q.items.cells j := by
      intro j hj hjt
      rw [hf₂ j (hleft j hj), hf₁ j hjt]
    refine ⟨⟨items₂, q.head, some t'⟩, heap', ?_, ⟨c, ⟨?_, ?_, ?_, ?_⟩, rfl⟩, hself, hframe, hnext⟩
    · rw [ht] at hfind
      simp only [removeMessageFromqueue, hfind, Heap.read_of_live hitem, if_neg hhead, deref,
        Heap.read_of_live hbefore, hlast, hwrite, htail, if_true, hfree, hmsg, hmark, bind,
        Except.bind, pure, Except.pure]
    · refine hthr.dropLast ht ?_ fun j hj hjt => ?_
      · rw [RxQueue.next, htail₂]
        rfl
      · rw [RxQueue.next, hkeep j hj hjt, RxQueue.next]
    · refine hback.2.congr fun j hj => ?_
      rw [RxQueue.prev, RxQueue.prev]
      by_cases hjt : j = t'
      · rw [hjt, htail₂, hbefore]
        rfl
      · rw [hkeep j (List.mem_reverse.mp hj) hjt]
    · intro p hp
      obtain ⟨it, hit, hmsgp⟩ := hc.items p (List.mem_append_left _ hp)
      by_cases hpt' : p.1 = t'
      · rw [hpt', hbefore] at hit
        cases hit
        exact ⟨{ before with next := none }, by rw [hpt']; exact htail₂, hmsgp⟩
      · exact ⟨it, (hkeep _ (List.mem_map_of_mem hp) hpt').trans hit, hmsgp⟩
    · intro k it hk
      by_cases hki : k = i
      · rw [hki, hdead] at hk
        cases hk
      · by_cases hkt : k = t'
        · rw [hkt]
          exact htc
        · rw [hf₂ k hki, hf₁ k hkt] at hk
          have hmem := hc.live k it hk
          rw [List.map_append, List.mem_append] at hmem
          exact hmem.resolve_right fun h => hki (List.mem_singleton.mp h)

end RxQueue

theorem removeMessageFromqueue_mono {fuel fuel' : Nat} (hle : fuel ≤ fuel') {q : RxQueue}
    {heap : Heap ItcMessage} {message : Nat} {d : Dequeued}
    (h : removeMessageFromqueue fuel q heap message = .ok (some d)) :
    removeMessageFromqueue fuel' q heap message = .ok (some d) := by
  rw [removeMessageFromqueue] at h ⊢
  cases hfind : findQitem fuel q.items message none q.head with
  | error e =>
    rw [hfind] at h
    cases h
  | ok found =>
    cases found with
    | none =>
      rw [hfind] at h
      cases h
    | some found =>
      rw [findQitem_mono hle hfind]
      rw [hfind] at h
      exact h

/-! ## Marks -/

theorem or_inRxqueue (flags : UInt32) :
    (flags ||| ITC_FLAGS_MSG_INRXQUEUE) &&& ITC_FLAGS_MSG_INRXQUEUE = ITC_FLAGS_MSG_INRXQUEUE := by
  apply UInt32.toBitVec_inj.mp
  ext i
  simp only [UInt32.toBitVec_and, UInt32.toBitVec_or, BitVec.getElem_and, BitVec.getElem_or,
    Bool.and_comm, Bool.and_or_distrib_left]
  grind

theorem andNot_inRxqueue (flags : UInt32) :
    (flags &&& ~~~ITC_FLAGS_MSG_INRXQUEUE) &&& ITC_FLAGS_MSG_INRXQUEUE = 0 := by
  rw [UInt32.and_assoc, UInt32.not_and_self, UInt32.and_zero]

/-- Exactly the live messages of `l` are marked. -/
def MarkedExactly (heap : Heap ItcMessage) (l : List Nat) : Prop :=
  ∀ p m, heap.cells p = some m → (m.flags &&& ITC_FLAGS_MSG_INRXQUEUE ≠ 0 ↔ p ∈ l)

section Marks

variable {heap heap' : Heap ItcMessage} {l l' : List Nat} {message : Nat} {m : ItcMessage}

theorem MarkedExactly.mark (h : MarkedExactly heap l)
    (hself : heap'.cells message =
      some { m with flags := m.flags ||| ITC_FLAGS_MSG_INRXQUEUE })
    (hframe : ∀ p, p ≠ message → heap'.cells p = heap.cells p) :
    MarkedExactly heap' (l ++ [message]) := by
  intro p mp hp
  rw [List.mem_append, List.mem_singleton]
  by_cases hpm : p = message
  · rw [hpm, hself] at hp
    cases hp
    refine iff_of_true ?_ (.inr hpm)
    show (m.flags ||| ITC_FLAGS_MSG_INRXQUEUE) &&& ITC_FLAGS_MSG_INRXQUEUE ≠ 0
    rw [or_inRxqueue]
    decide
  · rw [hframe p hpm] at hp
    rw [h p mp hp, or_iff_left hpm]

theorem MarkedExactly.unmark (h : MarkedExactly heap l)
    (hself : heap'.cells message =
      some { m with flags := m.flags &&& ~~~ITC_FLAGS_MSG_INRXQUEUE })
    (hframe : ∀ p, p ≠ message → heap'.cells p = heap.cells p)
    (hl : ∀ p, p ∈ l' ↔ p ∈ l ∧ p ≠ message) : MarkedExactly heap' l' := by
  intro p mp hp
  rw [hl]
  by_cases hpm : p = message
  · rw [hpm, hself] at hp
    cases hp
    refine iff_of_false (not_not.mpr ?_) (fun h => h.2 hpm)
    exact andNot_inRxqueue m.flags
  · rw [hframe p hpm] at hp
    rw [h p mp hp, and_iff_left hpm]

end Marks

/-! ## Runs -/

inductive QueueOp where
  | send (mem : Bool) (message : Nat)
  | receive
  | remove (message : Nat)

/-- An operation with the flags and the message it answers. -/
abbrev QueueCall := QueueOp × UInt32 × Option Nat

/-- An ordered list of messages: the tail grows, the head goes, any message can be removed. -/
inductive ListStep : List Nat → QueueCall → List Nat → Prop where
  | send (l : List Nat) (p : Nat) : ListStep l (.send true p, ITC_OK, none) (l ++ [p])
  | noMemory (l : List Nat) (p : Nat) : ListStep l (.send false p, ITC_SYSCALL_ERROR, none) l
  | receive (p : Nat) (l : List Nat) : ListStep (p :: l) (.receive, ITC_OK, some p) l
  | empty : ListStep [] (.receive, ITC_QUEUE_EMPTY, none) []
  | remove {p : Nat} {l : List Nat} (hp : p ∈ l) :
      ListStep l (.remove p, ITC_OK, some p) (l.erase p)
  | notFound {p : Nat} {l : List Nat} (hp : p ∉ l) :
      ListStep l (.remove p, ITC_QUEUE_EMPTY, none) l

abbrev LocalState := LocalInst × Heap ItcMessage

/-- A call of the local transport for a mailbox; `none` while `local_remove` still walks. -/
def localCall (mboxId : MboxId) (fuel : Nat) (s : LocalState) :
    QueueOp → Except MemFault (Option ((UInt32 × Option Nat) × LocalState))
  | .send mem p => do
      let (rc, s) ← localSend mem s.1 s.2 p mboxId
      return some ((rc, none), s)
  | .receive => do
      let (rc, message, s) ← localReceive s.1 s.2 mboxId
      return some ((rc, message), s)
  | .remove p => do
      let some (rc, message, s) ← localRemove fuel s.1 s.2 mboxId p | return none
      return some ((rc, message), s)

def LocalStep (mboxId : MboxId) (s : LocalState) (c : QueueCall) (s' : LocalState) : Prop :=
  ∃ fuel, localCall mboxId fuel s c.1 = .ok (some (c.2, s'))

/-- The queue of the mailbox, with all its links, holds the live messages `l` and only these are
marked. -/
structure QueueIs (mboxId : MboxId) (l : List Nat) (s : LocalState) : Prop where
  holds : ∃ i q, findLocalmbxData s.1 mboxId = .ok i ∧ (s.1.localmbxData i).rxq = some q ∧ q.Holds l
  nodup : l.Nodup
  live : ∀ p ∈ l, ∃ m, s.2.cells p = some m
  marks : MarkedExactly s.2 l

/-- A live message is sent that is not in the queue; none is removed from before the end. -/
def Allowed (l : List Nat) (heap : Heap ItcMessage) : QueueOp → Prop
  | .send _ p => (∃ m, heap.cells p = some m) ∧ p ∉ l
  | .receive => True
  | .remove p => p ∈ l → l.getLast? = some p

/-- The operation is allowed whatever the queue holds. -/
def AllowedIn (mboxId : MboxId) (s : LocalState) (c : QueueCall) : Prop :=
  ∀ i q l, findLocalmbxData s.1 mboxId = .ok i → (s.1.localmbxData i).rxq = some q → q.Holds l →
    Allowed l s.2 c.1

theorem localCall_mono {mboxId : MboxId} {fuel fuel' : Nat} (hle : fuel ≤ fuel') {s : LocalState}
    {op : QueueOp} {r : (UInt32 × Option Nat) × LocalState}
    (h : localCall mboxId fuel s op = .ok (some r)) : localCall mboxId fuel' s op = .ok (some r) := by
  cases op with
  | send mem p => exact h
  | receive => exact h
  | remove p =>
    simp only [localCall, localRemove] at h ⊢
    cases hfind : findLocalmbxData s.1 mboxId with
    | error rc =>
      rw [hfind] at h
      exact h
    | ok i =>
      cases hrxq : (s.1.localmbxData i).rxq with
      | none =>
        simp only [hfind, hrxq] at h ⊢
        exact h
      | some q =>
        simp only [hfind, hrxq] at h ⊢
        cases hremove : removeMessageFromqueue fuel q s.2 p with
        | error e =>
          rw [hremove] at h
          cases h
        | ok o =>
          cases o with
          | none =>
            rw [hremove] at h
            cases h
          | some d =>
            rw [removeMessageFromqueue_mono hle hremove]
            rw [hremove] at h
            exact h

theorem LocalInst.rxq_setRxq (inst : LocalInst) (i : Nat) (q : RxQueue) :
    ((inst.setRxq i q).localmbxData i).rxq = some q := by
  simp only [LocalInst.setRxq, LocalInst.setData, if_true]

/-- What `op` answers and leaves is what the list `l` does. -/
def Behaves (mboxId : MboxId) (l : List Nat) (s : LocalState) (op : QueueOp) : Prop :=
  ∃ answer s' l', ListStep l (op, answer) l' ∧ QueueIs mboxId l' s' ∧
    ∀ fuel, l.length < fuel → localCall mboxId fuel s op = .ok (some (answer, s'))

namespace QueueIs

variable {mboxId : MboxId} {l : List Nat} {s : LocalState}

theorem send (h : QueueIs mboxId l s) (mem : Bool) {p : Nat} {m : ItcMessage}
    (hm : s.2.cells p = some m) (hp : p ∉ l) : Behaves mboxId l s (.send mem p) := by
  obtain ⟨i, q, hfind, hrxq, hq⟩ := h.holds
  cases mem with
  | false =>
    refine ⟨_, (s.1.setRxq i q, s.2), l, .noMemory l p,
      ⟨⟨i, q, hfind, s.1.rxq_setRxq i q, hq⟩, h.nodup, h.live, h.marks⟩, fun fuel _ => ?_⟩
    simp only [localCall, localSend, hfind, hrxq, enqueueMessage, Bool.false_eq_true,
      not_false_eq_true, if_true, bind, Except.bind]
    rfl
  | true =>
    obtain ⟨q', heap', henq, hq', hself, hframe, -⟩ := enqueueMessage_spec hq hm
    refine ⟨_, (s.1.setRxq i q', heap'), l ++ [p], .send l p,
      ⟨⟨i, q', hfind, s.1.rxq_setRxq i q', hq'⟩, ?_, ?_, h.marks.mark hself hframe⟩, fun fuel _ => ?_⟩
    · refine List.nodup_append.mpr ⟨h.nodup, List.nodup_singleton p, ?_⟩
      intro p₁ hp₁ p₂ hp₂ heq
      rw [heq, List.mem_singleton.mp hp₂] at hp₁
      exact hp hp₁
    · intro p' hp'
      by_cases hpp : p' = p
      · exact ⟨_, hpp ▸ hself⟩
      · rw [hframe p' hpp]
        rw [List.mem_append, List.mem_singleton] at hp'
        exact h.live p' (hp'.resolve_right hpp)
    · simp only [localCall, localSend, hfind, hrxq, henq, bind, Except.bind]
      rfl

theorem receive (h : QueueIs mboxId l s) : Behaves mboxId l s .receive := by
  obtain ⟨i, q, hfind, hrxq, hq⟩ := h.holds
  cases l with
  | nil =>
    refine ⟨_, (s.1.setRxq i q, s.2), [], .empty,
      ⟨⟨i, q, hfind, s.1.rxq_setRxq i q, hq⟩, h.nodup, h.live, h.marks⟩, fun fuel _ => ?_⟩
    simp only [localCall, localReceive, hfind, hrxq, dequeueMessage_nil hq, bind, Except.bind]
    rfl
  | cons p l =>
    obtain ⟨m, hm⟩ := h.live p List.mem_cons_self
    obtain ⟨hp, hnd⟩ := List.nodup_cons.mp h.nodup
    obtain ⟨q', heap', hdeq, hq', hself, hframe, -⟩ := dequeueMessage_cons hq hm
    refine ⟨_, (s.1.setRxq i q', heap'), l, .receive p l,
      ⟨⟨i, q', hfind, s.1.rxq_setRxq i q', hq'⟩, hnd, ?_, h.marks.unmark hself hframe ?_⟩,
      fun fuel _ => ?_⟩
    · intro p' hp'
      have hne : p' ≠ p := fun heq => hp (heq ▸ hp')
      rw [hframe p' hne]
      exact h.live p' (List.mem_cons_of_mem _ hp')
    · intro p'
      rw [List.mem_cons]
      constructor
      · exact fun hp' => ⟨.inr hp', fun heq => hp (heq ▸ hp')⟩
      · exact fun hp' => hp'.1.resolve_left hp'.2
    · simp only [localCall, localReceive, hfind, hrxq, hdeq, bind, Except.bind]
      rfl

theorem remove_absent (h : QueueIs mboxId l s) {p : Nat} (hp : p ∉ l) :
    Behaves mboxId l s (.remove p) := by
  obtain ⟨i, q, hfind, hrxq, hq⟩ := h.holds
  refine ⟨_, (s.1.setRxq i q, s.2), l, .notFound hp,
    ⟨⟨i, q, hfind, s.1.rxq_setRxq i q, hq⟩, h.nodup, h.live, h.marks⟩, fun fuel hfuel => ?_⟩
  simp only [localCall, localRemove, hfind, hrxq, hq.remove_absent hp hfuel, bind, Except.bind]
  rfl

theorem remove_last {p : Nat} (h : QueueIs mboxId (l ++ [p]) s) :
    Behaves mboxId (l ++ [p]) s (.remove p) := by
  obtain ⟨i, q, hfind, hrxq, hq⟩ := h.holds
  obtain ⟨hnd, -, hdisj⟩ := List.nodup_append.mp h.nodup
  have hp : p ∉ l := fun hp => hdisj p hp p List.mem_cons_self rfl
  have hmem : p ∈ l ++ [p] := List.mem_append_right _ List.mem_cons_self
  obtain ⟨m, hm⟩ := h.live p hmem
  obtain ⟨q', heap', hremove, hq', hself, hframe, -⟩ := hq.remove_last hp hm (Nat.lt_succ_self _)
  have herase : (l ++ [p]).erase p = l := by
    rw [List.erase_append_right _ hp, List.erase_cons_head, List.append_nil]
  have hlist : ListStep (l ++ [p]) (.remove p, ITC_OK, some p) ((l ++ [p]).erase p) := .remove hmem
  rw [herase] at hlist
  refine ⟨_, (s.1.setRxq i q', heap'), l, hlist,
    ⟨⟨i, q', hfind, s.1.rxq_setRxq i q', hq'⟩, hnd, ?_, h.marks.unmark hself hframe ?_⟩,
    fun fuel hfuel => ?_⟩
  · intro p' hp'
    have hne : p' ≠ p := fun heq => hp (heq ▸ hp')
    rw [hframe p' hne]
    exact h.live p' (List.mem_append_left _ hp')
  · intro p'
    rw [List.mem_append, List.mem_singleton]
    constructor
    · exact fun hp' => ⟨.inl hp', fun heq => hp (heq ▸ hp')⟩
    · exact fun hp' => hp'.1.resolve_right hp'.2
  · rw [List.length_append] at hfuel
    have hremove' := removeMessageFromqueue_mono (Nat.le_of_succ_le hfuel) hremove
    simp only [localCall, localRemove, hfind, hrxq, hremove', bind, Except.bind]
    rfl

/-- **An allowed call is a step of the list.** -/
theorem call (h : QueueIs mboxId l s) {op : QueueOp} (hop : Allowed l s.2 op) :
    Behaves mboxId l s op := by
  cases op with
  | send mem p =>
    obtain ⟨⟨m, hm⟩, hp⟩ := hop
    exact h.send mem hm hp
  | receive => exact h.receive
  | remove p =>
    by_cases hp : p ∈ l
    · obtain ⟨l', rfl⟩ := List.getLast?_eq_some_iff.mp (hop hp)
      exact h.remove_last
    · exact h.remove_absent hp

theorem allowed (h : QueueIs mboxId l s) {c : QueueCall} (hc : AllowedIn mboxId s c) :
    Allowed l s.2 c.1 := by
  obtain ⟨i, q, hfind, hrxq, hq⟩ := h.holds
  exact hc i q l hfind hrxq hq

theorem allowedIn (h : QueueIs mboxId l s) {c : QueueCall} (hc : Allowed l s.2 c.1) :
    AllowedIn mboxId s c := by
  intro i' q' l' hfind' hrxq' hq'
  obtain ⟨i, q, hfind, hrxq, hq⟩ := h.holds
  obtain rfl : i = i' := Except.ok.inj (hfind.symm.trans hfind')
  obtain rfl : q = q' := Option.some.inj (hrxq.symm.trans hrxq')
  obtain rfl : l = l' := hq.unique hq'
  exact hc

theorem step {c : QueueCall} {s' : LocalState} (h : QueueIs mboxId l s)
    (hstep : Guarded (LocalStep mboxId) (AllowedIn mboxId) s c s') :
    ∃ l', ListStep l c l' ∧ QueueIs mboxId l' s' := by
  obtain ⟨hc, fuel, hcall⟩ := hstep
  obtain ⟨op, answer⟩ := c
  obtain ⟨answer₁, s₁, l', hlist, h', hcall₁⟩ := h.call (h.allowed hc)
  have heq := (localCall_mono (Nat.le_max_left fuel (l.length + 1)) hcall).symm.trans
    (hcall₁ _ (Nat.lt_of_lt_of_le (Nat.lt_succ_self _) (Nat.le_max_right _ _)))
  rw [Except.ok.injEq, Option.some.injEq, Prod.mk.injEq] at heq
  obtain ⟨rfl, rfl⟩ := heq
  exact ⟨l', hlist, h'⟩

theorem run {cs : List QueueCall} {s' : LocalState} (h : QueueIs mboxId l s)
    (hrun : Run (Guarded (LocalStep mboxId) (AllowedIn mboxId)) s cs s') :
    ∃ l', Run ListStep l cs l' ∧ QueueIs mboxId l' s' := by
  induction hrun generalizing l with
  | nil s => exact ⟨l, .nil l, h⟩
  | cons hstep _ ih =>
    obtain ⟨l₁, hlist, h₁⟩ := h.step hstep
    obtain ⟨l', hrun, h'⟩ := ih h₁
    exact ⟨l', .cons hlist hrun, h'⟩

end QueueIs

/-- A mailbox just created has an empty queue. -/
theorem localCreateMbox_queueIs {inst₀ inst : LocalInst} {mboxId : MboxId} {flags : UInt32}
    (hcreate : localCreateMbox inst₀ mboxId flags = (ITC_OK, inst)) {heap : Heap ItcMessage}
    (hclear : MarkedExactly heap []) : QueueIs mboxId [] (inst, heap) := by
  unfold localCreateMbox at hcreate
  cases hfind : findLocalmbxData inst₀ mboxId with
  | error rc =>
    rw [hfind, Prod.mk.injEq] at hcreate
    exact absurd hcreate.1 (findLocalmbxData_error hfind)
  | ok i =>
    rw [hfind] at hcreate
    cases hrxq : (inst₀.localmbxData i).rxq with
    | some q =>
      simp only [hrxq, Prod.mk.injEq] at hcreate
      exact absurd hcreate.1 (by decide)
    | none =>
      simp only [hrxq, Prod.mk.injEq, true_and] at hcreate
      subst hcreate
      refine ⟨⟨i, initQueue, hfind, ?_, RxQueue.holds_initQueue⟩, List.nodup_nil, by simp, hclear⟩
      simp only [LocalInst.setData, if_true]

/-- **The rx queue is an ordered list as long as nothing is removed from before its end.** -/
theorem rxqueue_is_list {inst₀ inst : LocalInst} {mboxId : MboxId} {flags : UInt32}
    (hcreate : localCreateMbox inst₀ mboxId flags = (ITC_OK, inst)) {heap : Heap ItcMessage}
    (hclear : MarkedExactly heap []) {cs : List QueueCall} {s : LocalState}
    (hrun : Run (Guarded (LocalStep mboxId) (AllowedIn mboxId)) (inst, heap) cs s) :
    ∃ l, Run ListStep [] cs l ∧ QueueIs mboxId l s ∧
      ∀ op, Allowed l s.2 op → Behaves mboxId l s op := by
  obtain ⟨l, hlist, h⟩ := (localCreateMbox_queueIs hcreate hclear).run hrun
  exact ⟨l, hlist, h, fun op hop => h.call hop⟩

theorem localCall_returned {mboxId : MboxId} {fuel : Nat} {s : LocalState} {op : QueueOp}
    {answer : UInt32 × Option Nat} {default : (UInt32 × Option Nat) × LocalState}
    (hreturns : (localCall mboxId fuel s op).map Option.isSome = .ok true)
    (hanswer : (returned default (localCall mboxId fuel s op)).1 = answer) :
    localCall mboxId fuel s op =
      .ok (some (answer, (returned default (localCall mboxId fuel s op)).2)) := by
  rw [← hanswer]
  exact returned_eq hreturns

/-- Three unmarked messages, at the addresses 0, 1 and 2. -/
def threeMessages : Heap ItcMessage :=
  ((Heap.empty.push (.fresh .little 4 1)).push (.fresh .little 4 2)).push (.fresh .little 4 3)

theorem markedExactly_threeMessages : MarkedExactly threeMessages [] := by
  intro p m hp
  have hflags : m.flags = 0 := by
    by_cases h2 : p = 2
    · subst h2
      cases hp
      rfl
    · rw [threeMessages, Heap.push_of_ne _ _ h2] at hp
      by_cases h1 : p = 1
      · subst h1
        cases hp
        rfl
      · rw [Heap.push_of_ne _ _ h1] at hp
        by_cases h0 : p = 0
        · subst h0
          cases hp
          rfl
        · rw [Heap.push_of_ne _ _ h0] at hp
          cases hp
  rw [hflags]
  exact iff_of_false (by decide) List.not_mem_nil

/-- Two sends, the removal of the second message and a receive. -/
theorem rxqueue_is_list_removal :
    ∃ (s : LocalState) (l : List Nat),
      Run ListStep [] [(.send true 0, ITC_OK, none), (.send true 1, ITC_OK, none),
        (.remove 1, ITC_OK, some 1), (.receive, ITC_OK, some 0)] l ∧
      QueueIs 0x00100001 l s := by
  let c₀ := localCreateMbox (localInit 0x00100000 0xFFF00000 4) 0x00100001 0
  let c₁ := returned ((0, none), (c₀.2, threeMessages))
    (localCall 0x00100001 0 (c₀.2, threeMessages) (.send true 0))
  let c₂ := returned ((0, none), (c₀.2, threeMessages)) (localCall 0x00100001 0 c₁.2 (.send true 1))
  let c₃ := returned ((0, none), (c₀.2, threeMessages)) (localCall 0x00100001 3 c₂.2 (.remove 1))
  let c₄ := returned ((0, none), (c₀.2, threeMessages)) (localCall 0x00100001 0 c₃.2 .receive)
  have hcode : c₀.1 = ITC_OK := by decide +kernel
  have hcreate : localCreateMbox (localInit 0x00100000 0xFFF00000 4) 0x00100001 0 =
      (ITC_OK, c₀.2) := Prod.ext hcode rfl
  have hcall₁ : localCall 0x00100001 0 (c₀.2, threeMessages) (.send true 0) =
      .ok (some ((ITC_OK, none), c₁.2)) :=
    localCall_returned (by decide +kernel) (by decide +kernel)
  have hcall₂ : localCall 0x00100001 0 c₁.2 (.send true 1) = .ok (some ((ITC_OK, none), c₂.2)) :=
    localCall_returned (by decide +kernel) (by decide +kernel)
  have hcall₃ : localCall 0x00100001 3 c₂.2 (.remove 1) = .ok (some ((ITC_OK, some 1), c₃.2)) :=
    localCall_returned (by decide +kernel) (by decide +kernel)
  have hcall₄ : localCall 0x00100001 0 c₃.2 .receive = .ok (some ((ITC_OK, some 0), c₄.2)) :=
    localCall_returned (by decide +kernel) (by decide +kernel)
  have hlive : ∃ m, c₁.2.2.cells 1 = some m := Option.isSome_iff_exists.mp (by decide +kernel)
  clear_value c₄ c₃ c₂ c₁ c₀
  have h₀ : QueueIs 0x00100001 [] (c₀.2, threeMessages) :=
    localCreateMbox_queueIs hcreate markedExactly_threeMessages
  have hsend₁ : Guarded (LocalStep 0x00100001) (AllowedIn 0x00100001) (c₀.2, threeMessages)
      (.send true 0, ITC_OK, none) c₁.2 :=
    ⟨h₀.allowedIn ⟨⟨_, rfl⟩, List.not_mem_nil⟩, 0, hcall₁⟩
  obtain ⟨l₁, hlist₁, h₁⟩ := h₀.step hsend₁
  cases hlist₁
  have hsend₂ : Guarded (LocalStep 0x00100001) (AllowedIn 0x00100001) c₁.2
      (.send true 1, ITC_OK, none) c₂.2 := ⟨h₁.allowedIn ⟨hlive, by decide⟩, 0, hcall₂⟩
  obtain ⟨l₂, hlist₂, h₂⟩ := h₁.step hsend₂
  cases hlist₂
  have hremove : Guarded (LocalStep 0x00100001) (AllowedIn 0x00100001) c₂.2
      (.remove 1, ITC_OK, some 1) c₃.2 := ⟨h₂.allowedIn fun _ => rfl, 3, hcall₃⟩
  obtain ⟨l₃, hlist₃, h₃⟩ := h₂.step hremove
  have hreceive : Guarded (LocalStep 0x00100001) (AllowedIn 0x00100001) c₃.2
      (.receive, ITC_OK, some 0) c₄.2 := ⟨h₃.allowedIn trivial, 0, hcall₄⟩
  obtain ⟨l, hlist, h, -⟩ := rxqueue_is_list hcreate markedExactly_threeMessages
    (.cons hsend₁ (.cons hsend₂ (.cons hremove (.cons hreceive (.nil _)))))
  exact ⟨c₄.2, l, hlist, h⟩

/-- Removing the second of three messages makes the next `local_receive` free its item again. -/
theorem rxqueue_double_free :
    ∃ inst s, localCreateMbox (localInit 0x00100000 0xFFF00000 4) 0x00100001 0 = (ITC_OK, inst) ∧
      Run (LocalStep 0x00100001) (inst, threeMessages)
        [(.send true 0, ITC_OK, none), (.send true 1, ITC_OK, none), (.send true 2, ITC_OK, none),
          (.remove 1, ITC_OK, some 1)] s ∧
      (¬ ∃ l, QueueIs 0x00100001 l s) ∧
      localCall 0x00100001 0 s .receive = .error .doubleFree := by
  let c₀ := localCreateMbox (localInit 0x00100000 0xFFF00000 4) 0x00100001 0
  let c₁ := returned ((0, none), (c₀.2, threeMessages))
    (localCall 0x00100001 0 (c₀.2, threeMessages) (.send true 0))
  let c₂ := returned ((0, none), (c₀.2, threeMessages)) (localCall 0x00100001 0 c₁.2 (.send true 1))
  let c₃ := returned ((0, none), (c₀.2, threeMessages)) (localCall 0x00100001 0 c₂.2 (.send true 2))
  let c₄ := returned ((0, none), (c₀.2, threeMessages)) (localCall 0x00100001 4 c₃.2 (.remove 1))
  have hcode : c₀.1 = ITC_OK := by decide +kernel
  have hcall₁ : localCall 0x00100001 0 (c₀.2, threeMessages) (.send true 0) =
      .ok (some ((ITC_OK, none), c₁.2)) :=
    localCall_returned (by decide +kernel) (by decide +kernel)
  have hcall₂ : localCall 0x00100001 0 c₁.2 (.send true 1) = .ok (some ((ITC_OK, none), c₂.2)) :=
    localCall_returned (by decide +kernel) (by decide +kernel)
  have hcall₃ : localCall 0x00100001 0 c₂.2 (.send true 2) = .ok (some ((ITC_OK, none), c₃.2)) :=
    localCall_returned (by decide +kernel) (by decide +kernel)
  have hcall₄ : localCall 0x00100001 4 c₃.2 (.remove 1) = .ok (some ((ITC_OK, some 1), c₄.2)) :=
    localCall_returned (by decide +kernel) (by decide +kernel)
  have hfault : localCall 0x00100001 0 c₄.2 .receive = .error .doubleFree :=
    fault_eq (show (localCall 0x00100001 0 c₄.2 .receive).map Option.isSome = _ by decide +kernel)
  clear_value c₄ c₃ c₂ c₁
  have hrun : Run (LocalStep 0x00100001) (c₀.2, threeMessages)
      [(.send true 0, ITC_OK, none), (.send true 1, ITC_OK, none), (.send true 2, ITC_OK, none),
        (.remove 1, ITC_OK, some 1)] c₄.2 :=
    .cons ⟨0, hcall₁⟩ (.cons ⟨0, hcall₂⟩ (.cons ⟨0, hcall₃⟩ (.cons ⟨4, hcall₄⟩ (.nil _))))
  refine ⟨c₀.2, c₄.2, Prod.ext hcode rfl, hrun, ?_, hfault⟩
  rintro ⟨l, h⟩
  obtain ⟨answer, s', l', -, -, hcall⟩ := h.receive
  exact nomatch hfault.symm.trans (hcall (l.length + 1) (Nat.lt_succ_self _))

end ItcFramework
