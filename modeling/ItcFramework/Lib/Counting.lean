import Mathlib.Data.Finset.Card

/-!
# Counting the parties in a condition

`Counts p n`: exactly `n` indices satisfy `p`, of however many there are. A step of one party
changes the number by what it changes for that party (`Counts.change`). `exists_not_mem_iff`: when
a number below a bound is left.
-/

set_option autoImplicit false

namespace Counting

variable {ι : Type*} {p p' : ι → Bool} {n n' : Nat}

def Counts (p : ι → Bool) (n : Nat) : Prop :=
  ∃ s : Finset ι, (∀ i, i ∈ s ↔ p i = true) ∧ s.card = n

namespace Counts

theorem unique (h : Counts p n) (h' : Counts p n') : n = n' := by
  obtain ⟨s, hs, rfl⟩ := h
  obtain ⟨s', hs', rfl⟩ := h'
  have heq : s = s' := Finset.ext fun i => (hs i).trans (hs' i).symm
  rw [heq]

theorem zero (h : ∀ i, p i = false) : Counts p 0 := by
  refine ⟨∅, fun i => ?_, rfl⟩
  simp [h i]

theorem of_nodup [DecidableEq ι] {l : List ι} (hnd : l.Nodup) (h : ∀ i, p i = true ↔ i ∈ l) :
    Counts p l.length := by
  refine ⟨l.toFinset, fun i => ?_, List.toFinset_card_of_nodup hnd⟩
  rw [List.mem_toFinset, h]

/-- **One index changes.** -/
theorem change [DecidableEq ι] (h : Counts p n) {i : ι} (heq : ∀ j, j ≠ i → p' j = p j) :
    ∃ n', Counts p' n' ∧ n' + (p i).toNat = n + (p' i).toNat := by
  obtain ⟨s, hs, rfl⟩ := h
  have hmem : i ∈ s ↔ p i = true := hs i
  cases hp' : p' i with
  | true =>
    refine ⟨(insert i s).card, ⟨insert i s, fun j => ?_, rfl⟩, ?_⟩
    · by_cases hj : j = i
      · simp [hj, hp']
      · simp [hj, hs, heq j hj]
    · cases hp : p i with
      | true => rw [Finset.insert_eq_of_mem (hmem.mpr hp)]
      | false =>
        have hnot : i ∉ s := fun hi => by simp [hmem.mp hi] at hp
        rw [Finset.card_insert_of_notMem hnot]
        rfl
  | false =>
    refine ⟨(s.erase i).card, ⟨s.erase i, fun j => ?_, rfl⟩, ?_⟩
    · by_cases hj : j = i
      · simp [hj, hp']
      · simp [hj, hs, heq j hj]
    · cases hp : p i with
      | true =>
        show (s.erase i).card + 1 = s.card
        exact Finset.card_erase_add_one (hmem.mpr hp)
      | false =>
        have hnot : i ∉ s := fun hi => by simp [hmem.mp hi] at hp
        rw [Finset.erase_eq_of_notMem hnot]

end Counts

/-- Of `n` numbers one is left just when fewer than `n` are taken. -/
theorem exists_not_mem_iff {n : Nat} {l : List Nat} (hnd : l.Nodup) (hlt : ∀ i ∈ l, i < n) :
    (∃ j < n, j ∉ l) ↔ l.length < n := by
  have hsub : l ⊆ List.range n := fun i hi => List.mem_range.mpr (hlt i hi)
  have hsubperm := hnd.subperm hsub
  constructor
  · rintro ⟨j, hj, hnot⟩
    by_contra hle
    have hperm := hsubperm.perm_of_length_le (by rw [List.length_range]; omega)
    exact hnot (hperm.mem_iff.mpr (List.mem_range.mpr hj))
  · intro hlen
    by_contra hall
    have hrange : List.range n ⊆ l := by
      intro j hj
      by_contra hnot
      exact hall ⟨j, List.mem_range.mp hj, hnot⟩
    have hle := (List.nodup_range.subperm hrange).length_le
    rw [List.length_range] at hle
    omega

end Counting
