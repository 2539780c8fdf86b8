import ItcFramework.Lib.Bytes

/-!
# A heap of objects

Addresses are handed out in increasing order and never reused, so a pointer to an object that
was freed stays recognisable: reading through it is a use after free, freeing it again a double
free.

* `Heap` — carries the fact that nothing lies beyond the allocation frontier.
* `Heap.alloc`, `Heap.read`, `Heap.write`, `Heap.free` — the operations, with their frame
  lemmas.
-/

set_option autoImplicit false

namespace HeapModel

open ByteImage (MemFault bind_eq_ok)

variable {α : Type*}

structure Heap (α : Type*) where
  cells : Nat → Option α
  next : Nat
  fresh : ∀ p, next ≤ p → cells p = none

namespace Heap

def empty : Heap α := ⟨fun _ => none, 0, fun _ _ => rfl⟩

theorem lt_next {h : Heap α} {p : Nat} {a : α} (hp : h.cells p = some a) : p < h.next := by
  by_contra hge
  rw [h.fresh p (by omega)] at hp
  cases hp

/-- The block that the next allocation returns, filled with `a`. -/
def push (h : Heap α) (a : α) : Heap α where
  cells := fun p => if p = h.next then some a else h.cells p
  next := h.next + 1
  fresh := by
    intro p hp
    rw [if_neg (by omega)]
    exact h.fresh p (by omega)

def alloc (h : Heap α) (a : α) : Nat × Heap α := (h.next, h.push a)

/-- Changes only what an address already handed out holds. -/
def update (h : Heap α) (p : Nat) (v : Option α) (hp : p < h.next) : Heap α where
  cells := fun q => if q = p then v else h.cells q
  next := h.next
  fresh := by
    intro q hq
    rw [if_neg (by omega)]
    exact h.fresh q hq

def read (h : Heap α) (p : Nat) : Except MemFault α :=
  match h.cells p with
  | some a => .ok a
  | none => .error .useAfterFree

def write (h : Heap α) (p : Nat) (a : α) : Except MemFault (Heap α) :=
  match hp : h.cells p with
  | some _ => .ok (h.update p (some a) (lt_next hp))
  | none => .error .useAfterFree

def free (h : Heap α) (p : Nat) : Except MemFault (Heap α) :=
  match hp : h.cells p with
  | some _ => .ok (h.update p none (lt_next hp))
  | none => .error .doubleFree

theorem push_next (h : Heap α) (a : α) : (h.push a).cells h.next = some a := if_pos rfl

theorem push_of_ne (h : Heap α) (a : α) {p : Nat} (hp : p ≠ h.next) :
    (h.push a).cells p = h.cells p := if_neg hp

theorem push_of_live {h : Heap α} {p : Nat} {a b : α} (hp : h.cells p = some a) :
    (h.push b).cells p = some a := by
  rw [push_of_ne _ _ (Nat.ne_of_lt (lt_next hp)), hp]

theorem read_of_live {h : Heap α} {p : Nat} {a : α} (hp : h.cells p = some a) :
    h.read p = .ok a := by
  rw [read, hp]

theorem live_of_read {h : Heap α} {p : Nat} {a : α} (hread : h.read p = .ok a) :
    h.cells p = some a := by
  unfold read at hread
  split at hread
  · rename_i hp
    cases hread
    exact hp
  · cases hread

/-- Writing a live object changes that object and no other. -/
theorem write_of_live {h : Heap α} {p : Nat} {a b : α} (hp : h.cells p = some a) :
    ∃ h', h.write p b = .ok h' ∧ h'.cells p = some b ∧ (∀ q, q ≠ p → h'.cells q = h.cells q) ∧
      h'.next = h.next := by
  refine ⟨h.update p (some b) (lt_next hp), ?_, if_pos rfl, fun q hq => if_neg hq, rfl⟩
  unfold write
  split
  · rfl
  · rename_i hnone
    rw [hp] at hnone
    cases hnone

/-- Freeing a live object ends that object and no other. -/
theorem free_of_live {h : Heap α} {p : Nat} {a : α} (hp : h.cells p = some a) :
    ∃ h', h.free p = .ok h' ∧ h'.cells p = none ∧ (∀ q, q ≠ p → h'.cells q = h.cells q) ∧
      h'.next = h.next := by
  refine ⟨h.update p none (lt_next hp), ?_, if_pos rfl, fun q hq => if_neg hq, rfl⟩
  unfold free
  split
  · rfl
  · rename_i hnone
    rw [hp] at hnone
    cases hnone

theorem write_frame {h h' : Heap α} {p : Nat} {a : α} (hwrite : h.write p a = .ok h') (q : Nat)
    (hq : q ≠ p) : h'.cells q = h.cells q := by
  unfold write at hwrite
  split at hwrite
  · cases hwrite
    exact if_neg hq
  · cases hwrite

theorem free_frame {h h' : Heap α} {p : Nat} (hfree : h.free p = .ok h') (q : Nat) (hq : q ≠ p) :
    h'.cells q = h.cells q := by
  unfold free at hfree
  split at hfree
  · cases hfree
    exact if_neg hq
  · cases hfree

/-! ### Later heaps -/

/-- `h'` comes after `h`: no address that has been freed comes back. -/
structure Evolves (h h' : Heap α) : Prop where
  next : h.next ≤ h'.next
  dead : ∀ p, p < h.next → h.cells p = none → h'.cells p = none

namespace Evolves

variable {h h' h'' : Heap α}

theorem refl (h : Heap α) : Evolves h h := ⟨Nat.le_refl _, fun _ _ hp => hp⟩

theorem trans (h₁ : Evolves h h') (h₂ : Evolves h' h'') : Evolves h h'' where
  next := Nat.le_trans h₁.next h₂.next
  dead p hlt hp := h₂.dead p (Nat.lt_of_lt_of_le hlt h₁.next) (h₁.dead p hlt hp)

theorem push (h : Heap α) (a : α) : Evolves h (h.push a) where
  next := Nat.le_succ _
  dead _ hlt hp := (push_of_ne h a (Nat.ne_of_lt hlt)).trans hp

theorem update {p : Nat} {a : α} (v : Option α) (hp : h.cells p = some a) (hlt : p < h.next) :
    Evolves h (h.update p v hlt) where
  next := Nat.le_refl _
  dead q _ hq := by
    have hne : q ≠ p := by
      intro heq
      rw [heq, hp] at hq
      cases hq
    exact (if_neg hne).trans hq

theorem write {p : Nat} {a : α} (hwrite : h.write p a = .ok h') : Evolves h h' := by
  unfold Heap.write at hwrite
  split at hwrite
  · rename_i hp
    cases hwrite
    exact .update _ hp _
  · cases hwrite

theorem free {p : Nat} (hfree : h.free p = .ok h') : Evolves h h' := by
  unfold Heap.free at hfree
  split at hfree
  · rename_i hp
    cases hfree
    exact .update _ hp _
  · cases hfree

end Evolves

/-- Freeing the objects of a list of distinct live addresses. -/
theorem foldlM_free {h : Heap α} {ps : List Nat} (hnd : ps.Nodup)
    (hlive : ∀ p ∈ ps, ∃ a, h.cells p = some a) :
    ∃ h', ps.foldlM free h = .ok h' ∧ (∀ p ∈ ps, h'.cells p = none) ∧
      (∀ q, q ∉ ps → h'.cells q = h.cells q) ∧ h'.next = h.next := by
  induction ps generalizing h with
  | nil => exact ⟨h, rfl, by simp, fun _ _ => rfl, rfl⟩
  | cons p ps ih =>
    obtain ⟨hp, hnd⟩ := List.nodup_cons.mp hnd
    obtain ⟨a, ha⟩ := hlive p List.mem_cons_self
    obtain ⟨h₁, hfree, hnone, hframe, hnext⟩ := free_of_live ha
    have hlive₁ : ∀ q ∈ ps, ∃ b, h₁.cells q = some b := by
      intro q hq
      have hne : q ≠ p := fun heq => hp (heq ▸ hq)
      rw [hframe q hne]
      exact hlive q (List.mem_cons_of_mem _ hq)
    obtain ⟨h', hfold, hdead, hframe', hnext'⟩ := ih hnd hlive₁
    refine ⟨h', ?_, ?_, ?_, hnext'.trans hnext⟩
    · rw [List.foldlM_cons, hfree]
      exact hfold
    · intro q hq
      rcases List.mem_cons.mp hq with rfl | hq
      · rw [hframe' _ hp, hnone]
      · exact hdead q hq
    · intro q hq
      rw [List.mem_cons, not_or] at hq
      rw [hframe' q hq.2, hframe q hq.1]

/-- Freeing ends no object outside the list. -/
theorem foldlM_free_frame {h h' : Heap α} {ps : List Nat} (hcall : ps.foldlM free h = .ok h')
    (q : Nat) (hq : q ∉ ps) : h'.cells q = h.cells q := by
  induction ps generalizing h with
  | nil =>
    cases hcall
    rfl
  | cons p ps ih =>
    rw [List.mem_cons, not_or] at hq
    rw [List.foldlM_cons] at hcall
    obtain ⟨h₁, hfree, hcall⟩ := bind_eq_ok hcall
    rw [ih hcall hq.2, free_frame hfree q hq.1]

end Heap

end HeapModel
