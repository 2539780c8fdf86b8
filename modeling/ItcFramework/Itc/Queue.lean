import ItcFramework.Lib.Heap
import ItcFramework.Lib.LinkedChain
import ItcFramework.Itc.Message

/-!
# The queue of the library

Embedding of `itc_queue.c`: a doubly linked list of nodes on the heap, each with a pointer to the
user's data, and their number. The mutex does not appear, since a call is one step.

* `ItcQueue.Holds q l` — the queue holds the data `l`, first in first.
* `qEnqueue_spec`, `qDequeue_nil`, `qDequeue_cons`, `qRemove_spec` — appending, taking the first
  and taking one from anywhere are these operations on `l`; no call touches a freed node.
-/

set_option autoImplicit false

namespace ItcFramework

open ByteImage HeapModel LinkedChain

/-- `struct itcq_node`. -/
structure ItcqNode where
  next : Option Nat
  prev : Option Nat
  pData : Nat
  deriving DecidableEq, Repr

/-- `struct itc_queue` with its nodes. -/
structure ItcQueue where
  nodes : Heap ItcqNode
  head : Option Nat
  tail : Option Nat
  size : UInt32

/-! ## Functions -/

def qInit : ItcQueue := ⟨.empty, none, none, 0⟩

/-- `node->next = next`. -/
def setNext (nodes : Heap ItcqNode) (node next : Option Nat) : Except MemFault (Heap ItcqNode) := do
  let node ← deref node
  let n ← nodes.read node
  nodes.write node { n with next }

/-- `node->prev = prev`. -/
def setPrev (nodes : Heap ItcqNode) (node prev : Option Nat) : Except MemFault (Heap ItcqNode) := do
  let node ← deref node
  let n ← nodes.read node
  nodes.write node { n with prev }

/-- `q_enqueue`; `mem` is what the `malloc` of `q_createnode` answers. A flag that was set before
keeps the node out of the queue as well. -/
def qEnqueue (mem : Bool) (rc : UInt32) (q : ItcQueue) (data : Nat) :
    Except MemFault (UInt32 × ItcQueue) :=
  if ¬ mem then .ok (rc ||| ITC_SYSCALL_ERROR, q) else do
  let (new, nodes) := q.nodes.alloc ⟨none, none, data⟩
  if rc ≠ ITC_OK then return (rc, { q with nodes })
  match q.tail with
  | none => return (rc, ⟨nodes, some new, some new, q.size + 1⟩)
  | some tail => do
      let nodes ← setNext nodes (some tail) (some new)
      let nodes ← setPrev nodes (some new) (some tail)
      return (rc, ⟨nodes, q.head, some new, q.size + 1⟩)

def qDequeue (rc : UInt32) (q : ItcQueue) : Except MemFault (UInt32 × Option Nat × ItcQueue) :=
  match q.head with
  | none => .ok (rc ||| ITC_QUEUE_EMPTY, none, q)
  | some head => do
      let node ← q.nodes.read head
      if q.tail = some head then
        let nodes ← q.nodes.free head
        return (rc, some node.pData, ⟨nodes, none, none, q.size - 1⟩)
      else
        let second ← deref node.next
        let n ← q.nodes.read second
        match n.prev with
        | none => return (rc ||| ITC_FREE_NULL_PTR, some node.pData,
            { q with head := some second, size := q.size - 1 })
        | some prev =>
            let nodes ← q.nodes.free prev
            let nodes ← setPrev nodes (some second) none
            return (rc, some node.pData, ⟨nodes, some second, q.tail, q.size - 1⟩)

/-- The walk of `q_remove` to the node with the data, on `fuel` nodes; `none` while it still
walks. -/
def findNode : Nat → Heap ItcqNode → Nat → Option Nat → Except MemFault (Option (Option Nat))
  | 0, _, _, _ => .ok none
  | _ + 1, _, _, none => .ok (some none)
  | fuel + 1, nodes, data, some iter => do
      let node ← nodes.read iter
      if node.pData = data then return some (some iter)
      findNode fuel nodes data node.next

/-- What `q_remove` does to the links around the node it has found. -/
def unlinkNode (q : ItcQueue) (iter : Nat) (node : ItcqNode) : Except MemFault ItcQueue :=
  if q.head = some iter then
    if q.size = 1 then .ok { q with head := none, tail := none }
    else do
      let nodes ← setPrev q.nodes node.next none
      return { q with nodes, head := node.next }
  else if q.tail = some iter then do
    let nodes ← setNext q.nodes node.prev none
    return { q with nodes, tail := node.prev }
  else do
    let nodes ← setNext q.nodes node.prev node.next
    let nodes ← setPrev nodes node.next node.prev
    return { q with nodes }

def qRemove (fuel : Nat) (q : ItcQueue) (data : Nat) : Except MemFault (Option ItcQueue) := do
  let some iter ← findNode fuel q.nodes data q.head | return none
  match iter with
  | none => return some q
  | some iter =>
      let node ← q.nodes.read iter
      let q ← unlinkNode q iter node
      let nodes ← q.nodes.free iter
      return some { q with nodes, size := q.size - 1 }

/-! ## Nodes -/

section Nodes

def nextOf (nodes : Heap ItcqNode) (i : Nat) : Option Nat := (nodes.cells i).bind ItcqNode.next

def prevOf (nodes : Heap ItcqNode) (i : Nat) : Option Nat := (nodes.cells i).bind ItcqNode.prev

def dataOf (nodes : Heap ItcqNode) (i : Nat) : Option Nat := (nodes.cells i).map ItcqNode.pData

variable {nodes : Heap ItcqNode} {i data : Nat}

theorem read_of_data (h : dataOf nodes i = some data) :
    nodes.cells i = some ⟨nextOf nodes i, prevOf nodes i, data⟩ := by
  unfold dataOf at h
  unfold nextOf prevOf
  cases hcell : nodes.cells i with
  | none =>
    rw [hcell] at h
    cases h
  | some node =>
    rw [hcell, Option.map_some, Option.some.injEq] at h
    rw [← h]
    rfl

/-- Two heaps with the same fields in the cell `i`. -/
structure SameNode (nodes nodes' : Heap ItcqNode) (i : Nat) : Prop where
  next : nextOf nodes' i = nextOf nodes i
  prev : prevOf nodes' i = prevOf nodes i
  data : dataOf nodes' i = dataOf nodes i

theorem SameNode.of_cells {nodes' : Heap ItcqNode} (h : nodes'.cells i = nodes.cells i) :
    SameNode nodes nodes' i := by
  constructor
  · rw [nextOf, h, nextOf]
  · rw [prevOf, h, prevOf]
  · rw [dataOf, h, dataOf]

theorem setNext_spec (h : dataOf nodes i = some data) (next : Option Nat) :
    ∃ nodes', setNext nodes (some i) next = .ok nodes' ∧ nextOf nodes' i = next ∧
      (∀ j, j ≠ i → nextOf nodes' j = nextOf nodes j) ∧ (∀ j, prevOf nodes' j = prevOf nodes j) ∧
      ∀ j, dataOf nodes' j = dataOf nodes j := by
  have hcell := read_of_data h
  obtain ⟨nodes', hwrite, hself, hframe, -⟩ := Heap.write_of_live
    (b := ⟨next, prevOf nodes i, data⟩) hcell
  refine ⟨nodes', ?_, ?_, fun j hj => (SameNode.of_cells (hframe j hj)).next, fun j => ?_,
    fun j => ?_⟩
  · simp only [setNext, deref, Heap.read_of_live hcell, bind, Except.bind]
    exact hwrite
  · rw [nextOf, hself]
    rfl
  · by_cases hj : j = i
    · rw [hj, prevOf, hself]
      rfl
    · exact (SameNode.of_cells (hframe j hj)).prev
  · by_cases hj : j = i
    · rw [hj, dataOf, hself, h]
      rfl
    · exact (SameNode.of_cells (hframe j hj)).data

theorem setPrev_spec (h : dataOf nodes i = some data) (prev : Option Nat) :
    ∃ nodes', setPrev nodes (some i) prev = .ok nodes' ∧ prevOf nodes' i = prev ∧
      (∀ j, j ≠ i → prevOf nodes' j = prevOf nodes j) ∧ (∀ j, nextOf nodes' j = nextOf nodes j) ∧
      ∀ j, dataOf nodes' j = dataOf nodes j := by
  have hcell := read_of_data h
  obtain ⟨nodes', hwrite, hself, hframe, -⟩ := Heap.write_of_live
    (b := ⟨nextOf nodes i, prev, data⟩) hcell
  refine ⟨nodes', ?_, ?_, fun j hj => (SameNode.of_cells (hframe j hj)).prev, fun j => ?_,
    fun j => ?_⟩
  · simp only [setPrev, deref, Heap.read_of_live hcell, bind, Except.bind]
    exact hwrite
  · rw [prevOf, hself]
    rfl
  · by_cases hj : j = i
    · rw [hj, nextOf, hself]
      rfl
    · exact (SameNode.of_cells (hframe j hj)).next
  · by_cases hj : j = i
    · rw [hj, dataOf, hself, h]
      rfl
    · exact (SameNode.of_cells (hframe j hj)).data

theorem freeNode_spec (h : dataOf nodes i = some data) :
    ∃ nodes', nodes.free i = .ok nodes' ∧ dataOf nodes' i = none ∧
      ∀ j, j ≠ i → SameNode nodes nodes' j := by
  obtain ⟨nodes', hfree, hdead, hframe, -⟩ := Heap.free_of_live (read_of_data h)
  refine ⟨nodes', hfree, ?_, fun j hj => .of_cells (hframe j hj)⟩
  rw [dataOf, hdead]
  rfl

end Nodes

/-! ## The queue as a list -/

namespace ItcQueue

/-- The nodes `c`, each with its data, are linked in both directions from head to tail. -/
structure Chain (q : ItcQueue) (c : List (Nat × Nat)) : Prop where
  links : Doubly q.head q.tail (nextOf q.nodes) (prevOf q.nodes) (c.map Prod.fst)
  data : ∀ p ∈ c, dataOf q.nodes p.1 = some p.2
  /-- No node has been left behind. -/
  live : ∀ i, dataOf q.nodes i ≠ none → i ∈ c.map Prod.fst
  size : q.size.toNat = c.length

def Holds (q : ItcQueue) (l : List Nat) : Prop := ∃ c, q.Chain c ∧ c.map Prod.snd = l

theorem holds_qInit : qInit.Holds [] :=
  ⟨[], ⟨.nil _ _, by simp, fun _ h => absurd rfl h, rfl⟩, rfl⟩

namespace Chain

variable {q : ItcQueue} {c : List (Nat × Nat)}

theorem ne_none {i : Nat} (h : q.Chain c) (hi : i ∈ c.map Prod.fst) :
    ∃ data, dataOf q.nodes i = some data := by
  obtain ⟨p, hp, rfl⟩ := List.mem_map.mp hi
  exact ⟨p.2, h.data p hp⟩

/-- Making a node of the chain free takes it out of the live ones. -/
theorem live_of_free (h : q.Chain c) {nodes nodes' : Heap ItcqNode} {i : Nat}
    (hdata : ∀ j, dataOf nodes j = dataOf q.nodes j) (hdead : dataOf nodes' i = none)
    (hkeep : ∀ j, j ≠ i → SameNode nodes nodes' j) (j : Nat) (hj : dataOf nodes' j ≠ none) :
    j ∈ c.map Prod.fst ∧ j ≠ i := by
  have hji : j ≠ i := fun heq => hj (heq ▸ hdead)
  rw [(hkeep j hji).data, hdata] at hj
  exact ⟨h.live j hj, hji⟩

end Chain

variable {q : ItcQueue} {l : List Nat} {data : Nat}

/-- **`q_enqueue` appends.** -/
theorem qEnqueue_spec (h : q.Holds l) (hlt : l.length + 1 < 2 ^ 32) (data : Nat) :
    ∃ q', qEnqueue true ITC_OK q data = .ok (ITC_OK, q') ∧ q'.Holds (l ++ [data]) := by
  obtain ⟨c, hc, rfl⟩ := h
  rw [List.length_map] at hlt
  have hsize : (q.size + 1).toNat = c.length + 1 := by
    rw [UInt32.toNat_add, hc.size, UInt32.toNat_one]
    exact Nat.mod_eq_of_lt hlt
  obtain ⟨nodes₁, hnodes₁⟩ : ∃ nodes₁, q.nodes.push ⟨none, none, data⟩ = nodes₁ := ⟨_, rfl⟩
  have hcell : nodes₁.cells q.nodes.next = some ⟨none, none, data⟩ := by
    rw [← hnodes₁]
    exact Heap.push_next _ _
  have hnew : dataOf nodes₁ q.nodes.next = some data := by
    rw [dataOf, hcell]
    rfl
  have hold : ∀ j, j ≠ q.nodes.next → SameNode q.nodes nodes₁ j := by
    intro j hj
    rw [← hnodes₁]
    exact .of_cells (Heap.push_of_ne _ _ hj)
  have hfresh : q.nodes.next ∉ c.map Prod.fst := by
    intro hin
    obtain ⟨d, hd⟩ := hc.ne_none hin
    exact absurd (Heap.lt_next (read_of_data hd)) (Nat.lt_irrefl _)
  have hne : ∀ j ∈ c.map Prod.fst, j ≠ q.nodes.next := fun j hj heq => hfresh (heq ▸ hj)
  -- the data and the liveness do not depend on the links
  have hchain : ∀ (nodes : Heap ItcqNode) (head : Option Nat),
      (∀ j, dataOf nodes j = dataOf nodes₁ j) →
      Doubly head (some q.nodes.next) (nextOf nodes) (prevOf nodes)
        (c.map Prod.fst ++ [q.nodes.next]) →
      Holds ⟨nodes, head, some q.nodes.next, q.size + 1⟩ (c.map Prod.snd ++ [data]) := by
    intro nodes head hdata hlinks
    refine ⟨c ++ [(q.nodes.next, data)], ⟨?_, ?_, ?_, ?_⟩, by simp⟩
    · rwa [List.map_append]
    · intro p hp
      rcases List.mem_append.mp hp with hp | hp
      · have hp' := hne p.1 (List.mem_map_of_mem hp)
        rw [hdata, (hold p.1 hp').data, hc.data p hp]
      · rw [List.mem_singleton.mp hp, hdata, hnew]
    · intro j hj
      rw [List.map_append, List.mem_append]
      by_cases hjn : j = q.nodes.next
      · exact .inr (hjn ▸ List.mem_cons_self)
      · rw [hdata, (hold j hjn).data] at hj
        exact .inl (hc.live j hj)
    · rw [hsize, List.length_append, List.length_singleton]
  cases ht : q.tail with
  | none =>
    have hnil : c.map Prod.fst = [] := hc.links.threaded.tail_none_iff.mp ht
    refine ⟨⟨nodes₁, some q.nodes.next, some q.nodes.next, q.size + 1⟩, ?_,
      hchain nodes₁ _ (fun _ => rfl) ?_⟩
    · simp only [qEnqueue, not_true_eq_false, if_false, Heap.alloc, hnodes₁, ht, ne_eq]
      rfl
    · rw [hnil]
      refine .first ?_ ?_
      · rw [nextOf, hcell]
        rfl
      · rw [prevOf, hcell]
        rfl
  | some t =>
    have htc : t ∈ c.map Prod.fst :=
      List.mem_of_getLast? (by rw [← hc.links.threaded.tail_eq, ht])
    obtain ⟨d, hd⟩ := hc.ne_none htc
    obtain ⟨nodes₂, hset₂, hself₂, hnext₂, hprev₂, hdata₂⟩ := setNext_spec
      ((hold t (hne t htc)).data.trans hd) (some q.nodes.next)
    obtain ⟨nodes₃, hset₃, hself₃, hprev₃, hnext₃, hdata₃⟩ := setPrev_spec
      ((hdata₂ _).trans hnew) (some t)
    have hlinks := hc.links
    rw [ht] at hlinks
    refine ⟨⟨nodes₃, q.head, some q.nodes.next, q.size + 1⟩, ?_,
      hchain nodes₃ _ (fun j => (hdata₃ j).trans (hdata₂ j)) ?_⟩
    · simp only [qEnqueue, not_true_eq_false, if_false, Heap.alloc, hnodes₁, ht, ne_eq, hset₂,
        hset₃, bind, Except.bind]
      rfl
    · refine hlinks.push hfresh ?_ ?_ hself₃ (fun j hj hjt => ?_) fun j hj => ?_
      · rw [hnext₃, hself₂]
      · rw [hnext₃, hnext₂ _ (hne t htc).symm, nextOf, hcell]
        rfl
      · rw [hnext₃, hnext₂ j hjt, (hold j (hne j hj)).next]
      · rw [hprev₃ j (hne j hj), hprev₂, (hold j (hne j hj)).prev]

theorem qDequeue_nil (h : q.Holds []) (rc : UInt32) :
    qDequeue rc q = .ok (rc ||| ITC_QUEUE_EMPTY, none, q) := by
  obtain ⟨c, hc, hmap⟩ := h
  have hnil : c = [] := List.map_eq_nil_iff.mp hmap
  subst hnil
  have hhead : q.head = none := hc.links.threaded.head_eq
  rw [qDequeue, hhead]

/-- **`q_dequeue` takes the first.** -/
theorem qDequeue_cons (h : q.Holds (data :: l)) (rc : UInt32) :
    ∃ q', qDequeue rc q = .ok (rc, some data, q') ∧ q'.Holds l := by
  obtain ⟨c', hc, hmap⟩ := h
  obtain ⟨⟨i, d⟩, c, rfl, rfl, rfl⟩ := List.map_eq_cons_iff.mp hmap
  have hi : dataOf q.nodes i = some d := hc.data (i, d) List.mem_cons_self
  have hread := Heap.read_of_live (read_of_data hi)
  have hhead : q.head = some i := hc.links.threaded.head_eq
  have hnd := List.nodup_cons.mp hc.links.threaded.nodup
  have hsize : (q.size - 1).toNat = c.length := by
    have hlen := hc.size
    rw [List.length_cons] at hlen
    rw [UInt32.toNat_sub_of_le _ _ (UInt32.le_iff_toNat_le.mpr (by rw [UInt32.toNat_one]; omega)),
      UInt32.toNat_one]
    omega
  obtain ⟨nodes₁, hfree, hdead, hkeep⟩ := freeNode_spec hi
  have hlive := hc.live_of_free (fun _ => Eq.refl (dataOf q.nodes _)) hdead hkeep
  cases c with
  | nil =>
    have htail : q.tail = some i := hc.links.threaded.tail_eq
    refine ⟨⟨nodes₁, none, none, q.size - 1⟩, ?_, [], ⟨.nil _ _, by simp, fun j hj => ?_, hsize⟩,
      rfl⟩
    · simp only [qDequeue, hhead, hread, htail, if_true, hfree, bind, Except.bind]
      rfl
    · exact absurd (List.mem_singleton.mp (hlive j hj).1) (hlive j hj).2
  | cons p c =>
    obtain ⟨j, dj⟩ := p
    have hlinks : Doubly q.head q.tail (nextOf q.nodes) (prevOf q.nodes)
        ([] ++ i :: j :: c.map Prod.fst) := hc.links
    have hji : j ≠ i := fun heq => hnd.1 (heq ▸ List.mem_cons_self)
    have hnext : nextOf q.nodes i = some j := hlinks.next_eq
    have hprev : prevOf q.nodes j = some i := hlinks.prev_eq
    have hj : dataOf q.nodes j = some dj := hc.data (j, dj) (by simp)
    have htail : q.tail ≠ some i := by
      rw [hlinks.threaded.tail_eq, List.nil_append, List.getLast?_cons_cons]
      exact fun hlast => hnd.1 (List.mem_of_getLast? hlast)
    obtain ⟨nodes₂, hset, hself₂, hprev₂, hnext₂, hdata₂⟩ := setPrev_spec
      ((hkeep j hji).data.trans hj) none
    have hleft : ∀ k ∈ j :: c.map Prod.fst, k ≠ i := fun k hk heq => hnd.1 (heq ▸ hk)
    refine ⟨⟨nodes₂, some j, q.tail, q.size - 1⟩, ?_, (j, dj) :: c, ⟨?_, ?_, ?_, hsize⟩, rfl⟩
    · simp only [qDequeue, hhead, hread, if_neg htail, hnext, deref,
        Heap.read_of_live (read_of_data hj), hprev, hfree, hset, bind, Except.bind]
      rfl
    · refine hlinks.pop hself₂ (fun k hk => ?_) fun k hk => ?_
      · rw [hnext₂, (hkeep k (hleft k hk)).next]
      · have hkj : k ≠ j := fun heq =>
          (List.nodup_cons.mp hnd.2).1 (heq ▸ hk)
        rw [hprev₂ k hkj, (hkeep k (hleft k (List.mem_cons_of_mem _ hk))).prev]
    · intro p hp
      rw [hdata₂, (hkeep p.1 (hleft p.1 (List.mem_map_of_mem hp))).data]
      exact hc.data p (List.mem_cons_of_mem _ hp)
    · intro k hk
      rw [hdata₂] at hk
      exact (List.mem_cons.mp (hlive k hk).1).resolve_left (hlive k hk).2

theorem findNode_found {nodes : Heap ItcqNode} {xs ys : List (Nat × Nat)} {i : Nat}
    (hlinked : Linked (nextOf nodes) ((xs ++ (i, data) :: ys).map Prod.fst))
    (hdata : ∀ p ∈ xs ++ (i, data) :: ys, dataOf nodes p.1 = some p.2)
    (hnot : data ∉ xs.map Prod.snd) {fuel : Nat} (hfuel : xs.length < fuel) :
    findNode fuel nodes data ((xs ++ (i, data) :: ys).map Prod.fst).head? = .ok (some (some i)) := by
  induction xs generalizing fuel with
  | nil =>
    cases fuel with
    | zero => cases hfuel
    | succ fuel =>
      have hi : dataOf nodes i = some data := hdata (i, data) List.mem_cons_self
      simp only [List.nil_append, List.map_cons, List.head?_cons, findNode,
        Heap.read_of_live (read_of_data hi), bind, Except.bind, if_true]
      rfl
  | cons p xs ih =>
    rw [List.map_cons, List.mem_cons, not_or] at hnot
    have hp : dataOf nodes p.1 = some p.2 := hdata p List.mem_cons_self
    have hnext : nextOf nodes p.1 = ((xs ++ (i, data) :: ys).map Prod.fst).head? := hlinked.1
    cases fuel with
    | zero => cases hfuel
    | succ fuel =>
      have hwalk := ih hlinked.2 (fun p' hp' => hdata p' (List.mem_cons_of_mem _ hp')) hnot.2
        (Nat.lt_of_succ_lt_succ hfuel)
      simp only [List.cons_append, List.map_cons, List.head?_cons, findNode,
        Heap.read_of_live (read_of_data hp), bind, Except.bind, if_neg (Ne.symm hnot.1), hnext,
        hwalk]

theorem findNode_absent {nodes : Heap ItcqNode} {c : List (Nat × Nat)}
    (hlinked : Linked (nextOf nodes) (c.map Prod.fst))
    (hdata : ∀ p ∈ c, dataOf nodes p.1 = some p.2) (hnot : data ∉ c.map Prod.snd) {fuel : Nat}
    (hfuel : c.length < fuel) :
    findNode fuel nodes data (c.map Prod.fst).head? = .ok (some none) := by
  induction c generalizing fuel with
  | nil =>
    cases fuel with
    | zero => cases hfuel
    | succ fuel => rfl
  | cons p c ih =>
    rw [List.map_cons, List.mem_cons, not_or] at hnot
    cases fuel with
    | zero => cases hfuel
    | succ fuel =>
      have hp : dataOf nodes p.1 = some p.2 := hdata p List.mem_cons_self
      have hnext : nextOf nodes p.1 = (c.map Prod.fst).head? := hlinked.1
      have hwalk := ih hlinked.2 (fun p' hp' => hdata p' (List.mem_cons_of_mem _ hp')) hnot.2
        (Nat.lt_of_succ_lt_succ hfuel)
      simp only [List.map_cons, List.head?_cons, findNode, Heap.read_of_live (read_of_data hp), bind,
        Except.bind, if_neg (Ne.symm hnot.1), hnext, hwalk]

/-- A datum that is not there is not found. -/
theorem qRemove_absent (h : q.Holds l) (hnot : data ∉ l) {fuel : Nat} (hfuel : l.length < fuel) :
    qRemove fuel q data = .ok (some q) := by
  obtain ⟨c, hc, rfl⟩ := h
  rw [List.length_map] at hfuel
  have hfind := findNode_absent hc.links.threaded.linked hc.data hnot hfuel
  rw [← hc.links.threaded.head_eq] at hfind
  simp only [qRemove, hfind, bind, Except.bind]
  rfl

/-- The links lead past the node, and nothing else has changed. -/
theorem unlinkNode_spec {l₁ l₂ : List Nat} {i d : Nat}
    (h : Doubly q.head q.tail (nextOf q.nodes) (prevOf q.nodes) (l₁ ++ i :: l₂))
    (hdata : ∀ j ∈ l₁ ++ l₂, ∃ dj, dataOf q.nodes j = some dj)
    (hsize : q.size = 1 ↔ l₁ ++ l₂ = []) :
    ∃ q', unlinkNode q i ⟨nextOf q.nodes i, prevOf q.nodes i, d⟩ = .ok q' ∧ q'.size = q.size ∧
      (∀ j, dataOf q'.nodes j = dataOf q.nodes j) ∧
      Doubly q'.head q'.tail (nextOf q'.nodes) (prevOf q'.nodes) (l₁ ++ l₂) := by
  have hnd := h.threaded.nodup
  rcases List.eq_nil_or_concat' l₁ with rfl | ⟨xs, a, rfl⟩
  · have hhead : q.head = some i := h.threaded.head_eq
    cases l₂ with
    | nil =>
      -- the only node
      refine ⟨{ q with head := none, tail := none }, ?_, rfl, fun _ => rfl, .nil _ _⟩
      rw [unlinkNode, if_pos hhead, if_pos (hsize.mpr rfl)]
    | cons b ys =>
      -- the first one
      have hnext : nextOf q.nodes i = some b := h.next_eq
      obtain ⟨db, hb⟩ := hdata b List.mem_cons_self
      obtain ⟨nodes₁, hset, hself, hprev₁, hnext₁, hdata₁⟩ := setPrev_spec hb none
      refine ⟨{ q with nodes := nodes₁, head := some b }, ?_, rfl, hdata₁, ?_⟩
      · have hmore : q.size ≠ 1 := fun hone => nomatch hsize.mp hone
        simp only [unlinkNode, if_pos hhead, if_neg hmore, hnext, hset, bind, Except.bind]
        rfl
      · refine Doubly.pop h hself (fun j _ => hnext₁ j) fun j hj => hprev₁ j fun heq => ?_
        exact (List.nodup_cons.mp (List.nodup_cons.mp hnd).2).1 (heq ▸ hj)
  · have hai : a ≠ i := fun heq =>
      (List.nodup_append.mp hnd).2.2 a (by simp) i List.mem_cons_self heq
    have hhead : q.head ≠ some i := by
      rw [h.threaded.head_eq]
      cases xs with
      | nil => exact fun heq => hai (Option.some.inj heq)
      | cons x xs =>
        exact fun heq => (List.nodup_append.mp hnd).2.2 x (by simp) i List.mem_cons_self
          (Option.some.inj heq)
    obtain ⟨da, ha⟩ := hdata a (by simp)
    cases l₂ with
    | nil =>
      -- the last one
      have htail : q.tail = some i := by rw [h.threaded.tail_eq, List.getLast?_concat]
      rw [List.append_assoc] at h
      have hprev : prevOf q.nodes i = some a := h.prev_eq
      obtain ⟨nodes₁, hset, hself, hnext₁, hprev₁, hdata₁⟩ := setNext_spec ha none
      refine ⟨{ q with nodes := nodes₁, tail := some a }, ?_, rfl, hdata₁, ?_⟩
      · simp only [unlinkNode, if_neg hhead, if_pos htail, hprev, hset, bind, Except.bind]
        rfl
      · rw [List.append_nil]
        rw [← List.append_assoc] at h
        refine Doubly.dropLast h hself (fun j hj => hnext₁ j fun heq => ?_) fun j _ => hprev₁ j
        exact (List.nodup_append.mp (List.nodup_append.mp hnd).1).2.2 j hj a List.mem_cons_self heq
    | cons b ys =>
      -- one in the middle
      have hnext : nextOf q.nodes i = some b := h.next_eq
      have htail : q.tail ≠ some i := by
        rw [h.threaded.tail_eq, List.getLast?_append, List.getLast?_cons_cons]
        intro heq
        have hmem : i ∈ b :: ys := by
          cases hlast : (b :: ys).getLast? with
          | none => cases (List.getLast?_eq_none_iff.mp hlast)
          | some z =>
            rw [hlast] at heq
            exact Option.some.inj heq ▸ List.mem_of_getLast? hlast
        exact (List.nodup_cons.mp (List.nodup_append.mp hnd).2.1).1 hmem
      rw [List.append_assoc] at h hnd ⊢
      have hprev : prevOf q.nodes i = some a := h.prev_eq
      obtain ⟨db, hb⟩ := hdata b (by simp)
      obtain ⟨nodes₁, hset₁, hself₁, hnext₁, hprev₁, hdata₁⟩ := setNext_spec ha (some b)
      obtain ⟨nodes₂, hset₂, hself₂, hprev₂, hnext₂, hdata₂⟩ := setPrev_spec
        ((hdata₁ b).trans hb) (some a)
      refine ⟨{ q with nodes := nodes₂ }, ?_, rfl, fun j => (hdata₂ j).trans (hdata₁ j), ?_⟩
      · simp only [unlinkNode, if_neg hhead, if_neg htail, hprev, hnext, hset₁, hset₂, bind,
          Except.bind]
        rfl
      · have ha' : a ∉ xs ++ i :: b :: ys := (List.nodup_middle.mp hnd).notMem
        have hb' : b ∉ xs ++ [a, i] ++ ys := by
          refine (List.nodup_middle.mp ?_).notMem
          rw [List.append_assoc]
          exact hnd
        refine Doubly.unlink h ((hnext₂ a).trans hself₁) hself₂ (fun j hj => ?_) fun j hj => ?_
        · rw [hnext₂, hnext₁ j]
          rintro rfl
          simp only [List.mem_append, List.mem_cons] at hj ha'
          tauto
        · rw [hprev₂ j, hprev₁]
          rintro rfl
          simp only [List.mem_append, List.mem_cons] at hj hb'
          tauto

/-- `q_remove` takes the first node with the datum out of the chain, and frees it. -/
theorem Chain.remove {xs ys : List (Nat × Nat)} {i d : Nat} (hc : q.Chain (xs ++ (i, d) :: ys))
    (hnot : d ∉ xs.map Prod.snd) {fuel : Nat} (hfuel : xs.length < fuel) :
    ∃ q', qRemove fuel q d = .ok (some q') ∧ q'.Chain (xs ++ ys) ∧ dataOf q'.nodes i = none := by
  have hfind := findNode_found hc.links.threaded.linked hc.data hnot hfuel
  rw [← hc.links.threaded.head_eq] at hfind
  have hid : dataOf q.nodes i = some d := hc.data (i, d) (by simp)
  have hread := Heap.read_of_live (read_of_data hid)
  have hsize : (q.size - 1).toNat = (xs ++ ys).length := by
    have hlen := hc.size
    rw [List.length_append, List.length_cons] at hlen
    rw [UInt32.toNat_sub_of_le _ _ (UInt32.le_iff_toNat_le.mpr (by rw [UInt32.toNat_one]; omega)),
      UInt32.toNat_one, List.length_append]
    omega
  have hnodup := hc.links.threaded.nodup
  rw [List.map_append, List.map_cons] at hnodup
  have hleft : ∀ j ∈ (xs ++ ys).map Prod.fst, j ≠ i := by
    intro j hj heq
    rw [List.map_append] at hj
    exact (List.nodup_middle.mp hnodup).notMem (heq ▸ hj)
  have hlinks := hc.links
  rw [List.map_append, List.map_cons] at hlinks
  have hlive : ∀ j ∈ xs.map Prod.fst ++ ys.map Prod.fst, ∃ dj, dataOf q.nodes j = some dj := by
    intro j hj
    apply hc.ne_none
    simp only [List.map_append, List.map_cons, List.mem_append, List.mem_cons] at hj ⊢
    tauto
  have hone : q.size = 1 ↔ xs.map Prod.fst ++ ys.map Prod.fst = [] := by
    have hlen := hc.size
    rw [List.length_append, List.length_cons] at hlen
    rw [← UInt32.toNat_inj, hlen, UInt32.toNat_one, ← List.length_eq_zero_iff, List.length_append,
      List.length_map, List.length_map]
    omega
  obtain ⟨q₁, hunlink, hsize₁, hdata₁, hlinks₁⟩ := unlinkNode_spec (d := d) hlinks hlive hone
  rw [← List.map_append] at hlinks₁
  obtain ⟨nodes', hfree, hdead, hkeep⟩ := freeNode_spec ((hdata₁ i).trans hid)
  refine ⟨⟨nodes', q₁.head, q₁.tail, q₁.size - 1⟩, ?_, ⟨?_, ?_, ?_, ?_⟩, hdead⟩
  · simp only [qRemove, hfind, hread, hunlink, hfree, bind, Except.bind]
    rfl
  · exact hlinks₁.congr (fun j hj => (hkeep j (hleft j hj)).next)
      fun j hj => (hkeep j (hleft j hj)).prev
  · intro p hp
    rw [(hkeep p.1 (hleft p.1 (List.mem_map_of_mem hp))).data, hdata₁]
    apply hc.data p
    rcases List.mem_append.mp hp with hp | hp
    · exact List.mem_append_left _ hp
    · exact List.mem_append_right _ (List.mem_cons_of_mem _ hp)
  · intro j hj
    obtain ⟨hjc, hji⟩ := hc.live_of_free hdata₁ hdead hkeep j hj
    simp only [List.map_append, List.map_cons, List.mem_append, List.mem_cons] at hjc ⊢
    tauto
  · rw [hsize₁, hsize]

/-- **`q_remove` takes the first node with the datum, from anywhere.** -/
theorem qRemove_spec (h : q.Holds l) (hmem : data ∈ l) {fuel : Nat} (hfuel : l.length < fuel) :
    ∃ q', qRemove fuel q data = .ok (some q') ∧ q'.Holds (l.erase data) := by
  obtain ⟨c, hc, rfl⟩ := h
  obtain ⟨before, behind, hsplit, hfirst⟩ := List.eq_append_cons_of_mem hmem
  obtain ⟨xs, rest, rfl, rfl, hrest⟩ := List.map_eq_append_iff.mp hsplit
  obtain ⟨⟨i, d⟩, ys, rfl, rfl, -⟩ := List.map_eq_cons_iff.mp hrest
  have hnot : d ∉ xs.map Prod.snd := hfirst
  obtain ⟨q', hremove, hc', -⟩ := hc.remove hnot (Nat.lt_of_le_of_lt (by simp) hfuel)
  refine ⟨q', hremove, xs ++ ys, hc', ?_⟩
  rw [List.map_append, List.map_append, List.map_cons, List.erase_append_right _ hnot,
    List.erase_cons_head]

/-- Enqueueing one after the other. -/
theorem foldlM_qEnqueue (h : q.Holds l) (l' : List Nat) (hlt : (l ++ l').length < 2 ^ 32) :
    ∃ q', l'.foldlM (fun q data => (qEnqueue true ITC_OK q data).map Prod.snd) q = .ok q' ∧
      q'.Holds (l ++ l') := by
  induction l' generalizing q l with
  | nil => exact ⟨q, rfl, by rwa [List.append_nil]⟩
  | cons data l' ih =>
    rw [List.length_append, List.length_cons] at hlt
    obtain ⟨q₁, henq, h₁⟩ := qEnqueue_spec h (by omega) data
    obtain ⟨q', hfold, h'⟩ := ih h₁ (by
      rw [List.length_append, List.length_append, List.length_singleton]
      omega)
    refine ⟨q', ?_, by simpa using h'⟩
    rw [List.foldlM_cons, henq]
    exact hfold

end ItcQueue

/-- The queue holds one list. -/
theorem ItcQueue.Holds.unique {q : ItcQueue} {l l' : List Nat} (h : q.Holds l) (h' : q.Holds l') :
    l = l' := by
  obtain ⟨c, hc, rfl⟩ := h
  obtain ⟨c', hc', rfl⟩ := h'
  have hdata : ∀ {c : List (Nat × Nat)}, q.Chain c →
      (c.map Prod.snd).map some = (c.map Prod.fst).map (dataOf q.nodes) := by
    intro c hc
    rw [List.map_map, List.map_map]
    apply List.map_congr_left
    exact fun p hp => (hc.data p hp).symm
  apply List.map_injective_iff.mpr (Option.some_injective Nat)
  rw [hdata hc, hdata hc', hc.links.threaded.unique hc'.links.threaded]

/-- More fuel finds the same node. -/
theorem findNode_mono {nodes : Heap ItcqNode} {data fuel fuel' : Nat} (hle : fuel ≤ fuel')
    {iter found : Option Nat} (h : findNode fuel nodes data iter = .ok (some found)) :
    findNode fuel' nodes data iter = .ok (some found) := by
  induction fuel generalizing fuel' iter with
  | zero => cases h
  | succ fuel ih =>
    cases fuel' with
    | zero => cases hle
    | succ fuel' =>
      cases iter with
      | none => exact h
      | some iter =>
        rw [findNode] at h ⊢
        obtain ⟨node, hread, h⟩ := bind_eq_ok h
        rw [hread]
        simp only [bind, Except.bind]
        by_cases hdata : node.pData = data
        · rw [if_pos hdata] at h ⊢
          exact h
        · rw [if_neg hdata] at h ⊢
          exact ih (Nat.le_of_succ_le_succ hle) h

theorem qRemove_mono {fuel fuel' : Nat} (hle : fuel ≤ fuel') {q q' : ItcQueue} {data : Nat}
    (h : qRemove fuel q data = .ok (some q')) : qRemove fuel' q data = .ok (some q') := by
  rw [qRemove] at h ⊢
  obtain ⟨found, hfind, h⟩ := bind_some_eq_ok h rfl
  rw [findNode_mono hle hfind]
  exact h

theorem findNode_ok {nodes : Heap ItcqNode} {l : List Nat} (hlinked : Linked (nextOf nodes) l)
    (hlive : ∀ i ∈ l, ∃ d, dataOf nodes i = some d) (fuel data : Nat) :
    ∃ found, findNode fuel nodes data l.head? = .ok found := by
  induction l generalizing fuel with
  | nil =>
    cases fuel with
    | zero => exact ⟨none, rfl⟩
    | succ fuel => exact ⟨some none, rfl⟩
  | cons i l ih =>
    obtain ⟨d, hd⟩ := hlive i List.mem_cons_self
    cases fuel with
    | zero => exact ⟨none, rfl⟩
    | succ fuel =>
      simp only [List.head?_cons, findNode, Heap.read_of_live (read_of_data hd), bind,
        Except.bind]
      split
      · exact ⟨_, rfl⟩
      · rw [hlinked.1]
        exact ih hlinked.2 (fun j hj => hlive j (List.mem_cons_of_mem _ hj)) fuel

/-- However long `q_remove` is watched, it does not fault, and what it leaves is the rest. -/
theorem ItcQueue.qRemove_returns {q : ItcQueue} {l : List Nat} {data : Nat} (h : q.Holds l)
    (hmem : data ∈ l) (fuel : Nat) :
    Returns (qRemove fuel q data) fun q' => q'.Holds (l.erase data) := by
  obtain ⟨q', hremove, h'⟩ := qRemove_spec h hmem (Nat.lt_succ_self _)
  obtain ⟨c, hc, rfl⟩ := h
  obtain ⟨found, hfind⟩ := findNode_ok hc.links.threaded.linked (fun _ hi => hc.ne_none hi) fuel data
  rw [← hc.links.threaded.head_eq] at hfind
  cases found with
  | none =>
    rw [qRemove, hfind]
    exact .running
  | some found =>
    have hmono := qRemove_mono (Nat.le_max_right fuel _) hremove
    rw [qRemove, findNode_mono (Nat.le_max_left fuel _) hfind] at hmono
    rw [qRemove, hfind, hmono]
    exact .result h'

end ItcFramework
