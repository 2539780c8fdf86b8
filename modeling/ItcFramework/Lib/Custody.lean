import Mathlib.Logic.Function.Basic
import Mathlib.Data.List.Nodup
import Mathlib.Data.List.Count

/-!
# Resources in the custody of slots

Each slot holds one resource at most. A resource is opened once, held by one slot, and closed when
the slot gives it up.

* `Conserved held opened closes` — every open resource is held by one slot, what a slot holds is
  open, and a slot that holds nothing has closed what it held last once. A slot that was never used
  counts as closed once.
* `closesAfter` — the closes of each slot after a step.
* `Conserved.fill`, `Conserved.release`, `Conserved.idle` — the steps that keep it.
* `Conserved.not_dropped` — an open resource that no slot takes breaks it.
-/

set_option autoImplicit false

namespace Custody

variable {S R : Type*} [DecidableEq S] [DecidableEq R]

structure Conserved (held : S → Option R) (opened : List R) (closes : S → Nat) : Prop where
  nodup : opened.Nodup
  stored : ∀ r ∈ opened, ∃! s, held s = some r
  live : ∀ s r, held s = some r → r ∈ opened
  once : ∀ s, closes s = if (held s).isSome then 0 else 1

/-- `closed` is what a step closes. A slot that is filled starts anew. -/
def closesAfter (held held' : S → Option R) (closed : List R) (closes : S → Nat) (s : S) : Nat :=
  match held s with
  | some r => closes s + closed.count r
  | none => if (held' s).isSome then 0 else closes s

namespace Conserved

variable {held : S → Option R} {opened : List R} {closes : S → Nat} {s : S} {r : R}

/-- A new resource goes into a free slot. -/
theorem fill (h : Conserved held opened closes) (hfree : held s = none) (hnew : r ∉ opened) :
    Conserved (Function.update held s (some r)) (r :: opened)
      (closesAfter held (Function.update held s (some r)) [] closes) := by
  have hne : ∀ {t : S} {r' : R}, held t = some r' → t ≠ s := by
    rintro t r' ht rfl
    rw [hfree] at ht
    cases ht
  refine ⟨List.nodup_cons.mpr ⟨hnew, h.nodup⟩, ?_, ?_, ?_⟩
  · intro r' hr'
    rcases List.mem_cons.mp hr' with rfl | hold
    · refine ⟨s, Function.update_self _ _ _, fun t ht => ?_⟩
      by_contra hts
      simp only [Function.update_of_ne hts] at ht
      exact hnew (h.live t _ ht)
    · obtain ⟨t, ht, huniq⟩ := h.stored r' hold
      refine ⟨t, ?_, fun u hu => ?_⟩
      · simp only [Function.update_of_ne (hne ht), ht]
      · by_cases hus : u = s
        · simp only [hus, Function.update_self, Option.some.injEq] at hu
          exact absurd (hu ▸ hold) hnew
        · simp only [Function.update_of_ne hus] at hu
          exact huniq u hu
  · intro t r' ht
    by_cases hts : t = s
    · rw [hts, Function.update_self, Option.some.injEq] at ht
      exact ht ▸ List.mem_cons_self
    · rw [Function.update_of_ne hts] at ht
      exact List.mem_cons_of_mem _ (h.live t r' ht)
  · intro t
    have hclose := h.once t
    by_cases hts : t = s
    · simp only [closesAfter, hts, hfree, Function.update_self, Option.isSome_some, if_true]
    · rw [closesAfter, Function.update_of_ne hts]
      cases hheld : held t with
      | none => simpa [hheld] using hclose
      | some r' => simpa [hheld] using hclose

/-- A slot closes what it holds, and holds nothing. -/
theorem release (h : Conserved held opened closes) (hheld : held s = some r) :
    Conserved (Function.update held s none) (opened.erase r)
      (closesAfter held (Function.update held s none) [r] closes) := by
  obtain ⟨_, _, honly⟩ := h.stored r (h.live s r hheld)
  have hother : ∀ {t : S}, held t = some r → t = s := fun ht => (honly _ ht).trans (honly _ hheld).symm
  refine ⟨h.nodup.erase r, ?_, ?_, ?_⟩
  · intro r' hr'
    obtain ⟨hne, hin⟩ := (h.nodup.mem_erase_iff).mp hr'
    obtain ⟨t, ht, huniq⟩ := h.stored r' hin
    have hts : t ≠ s := by
      rintro rfl
      exact hne (Option.some.inj (ht.symm.trans hheld))
    refine ⟨t, ?_, fun u hu => ?_⟩
    · simp only [Function.update_of_ne hts, ht]
    · by_cases hus : u = s
      · simp only [hus, Function.update_self] at hu
        cases hu
      · simp only [Function.update_of_ne hus] at hu
        exact huniq u hu
  · intro t r' ht
    by_cases hts : t = s
    · rw [hts, Function.update_self] at ht
      cases ht
    · rw [Function.update_of_ne hts] at ht
      refine (h.nodup.mem_erase_iff).mpr ⟨?_, h.live t r' ht⟩
      rintro rfl
      exact hts (hother ht)
  · intro t
    have hclose := h.once t
    by_cases hts : t = s
    · rw [hts] at hclose ⊢
      simp only [closesAfter, hheld, Function.update_self, Option.isSome_none, Bool.false_eq_true,
        if_false, List.count_singleton_self, hclose, Option.isSome_some, if_true]
    · rw [closesAfter, Function.update_of_ne hts]
      cases hheld' : held t with
      | none => simpa [hheld'] using hclose
      | some r' =>
        have hne : r ≠ r' := by
          rintro rfl
          exact hts (hother hheld')
        simpa [hheld', hne] using hclose

omit [DecidableEq S] in
/-- The slots stay as they are, and what is closed is not in any of them. -/
theorem idle (h : Conserved held opened closes) {closed : List R}
    (hclosed : ∀ r ∈ closed, r ∉ opened) :
    Conserved held opened (closesAfter held held closed closes) := by
  refine ⟨h.nodup, h.stored, h.live, fun t => ?_⟩
  have hclose := h.once t
  rw [closesAfter]
  cases hheld : held t with
  | none => simpa [hheld] using hclose
  | some r' =>
    have hcount : closed.count r' = 0 :=
      List.count_eq_zero.mpr fun hin => hclosed r' hin (h.live t r' hheld)
    simpa [hheld, hcount] using hclose

omit [DecidableEq S] [DecidableEq R] in
/-- **A new resource that no slot takes is lost.** -/
theorem not_dropped (h : Conserved held opened closes) (hnew : r ∉ opened) {closes' : S → Nat} :
    ¬ Conserved held (r :: opened) closes' := by
  intro hdropped
  obtain ⟨t, ht, -⟩ := hdropped.stored r List.mem_cons_self
  exact hnew (h.live t r ht)

end Conserved

end Custody
