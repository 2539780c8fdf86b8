import Mathlib.Data.List.Basic

/-!
# Labelled transition systems and their runs

A system is a relation `step s a s'` between states, labelled by actions.

* `Run step s as s'` — the actions `as` lead from `s` to `s'`;
* `Run.invariant` — what every step preserves, every run preserves;
* `Guarded step G` — the steps that meet the condition `G`; a run of it is a run all of whose
  steps meet `G`, and `Run.invariant_of_guard` is the rule for those.
* `Into step P` — the steps into states with `P`; `Run.into_iff_guarded` is the rule for a guard
  that is exact.
* `Run.guarded_congr` — guards that agree where an invariant holds have the same runs;
  `Run.guarded_imp` — the rule for one that is stronger.
-/

set_option autoImplicit false

namespace Transition

variable {σ α : Type*}

inductive Run (step : σ → α → σ → Prop) : σ → List α → σ → Prop where
  | nil (s : σ) : Run step s [] s
  | cons {s s₁ s' : σ} {a : α} {as : List α} (head : step s a s₁) (tail : Run step s₁ as s') :
      Run step s (a :: as) s'

/-- The steps of a system that meet a condition on the state before and the action. -/
def Guarded (step : σ → α → σ → Prop) (G : σ → α → Prop) (s : σ) (a : α) (s' : σ) : Prop :=
  G s a ∧ step s a s'

/-- The steps of a system into the states with a property. -/
def Into (step : σ → α → σ → Prop) (P : σ → Prop) (s : σ) (a : α) (s' : σ) : Prop :=
  step s a s' ∧ P s'

variable {step : σ → α → σ → Prop}

namespace Run

theorem append {s s₁ s' : σ} {as bs : List α} (h : Run step s as s₁) (h' : Run step s₁ bs s') :
    Run step s (as ++ bs) s' := by
  induction h with
  | nil => exact h'
  | cons head _ ih => exact .cons head (ih h')

theorem snoc {s s₁ s' : σ} {as : List α} {a : α} (h : Run step s as s₁) (hlast : step s₁ a s') :
    Run step s (as ++ [a]) s' :=
  h.append (.cons hlast (.nil s'))

/-- **What every step preserves, every run preserves.** -/
theorem invariant {I : σ → Prop} (hstep : ∀ s a s', I s → step s a s' → I s') {s s' : σ}
    {as : List α} (h : Run step s as s') (hs : I s) : I s' := by
  induction h with
  | nil => exact hs
  | cons head _ ih => exact ih (hstep _ _ _ hs head)

/-- The same when only the steps that meet `G` preserve the invariant. -/
theorem invariant_of_guard {I : σ → Prop} {G : σ → α → Prop}
    (hstep : ∀ s a s', I s → G s a → step s a s' → I s') {s s' : σ} {as : List α}
    (h : Run (Guarded step G) s as s') (hs : I s) : I s' :=
  h.invariant (fun s a s' hi hg => hstep s a s' hi hg.1 hg.2) hs

/-- **The runs through states with `P` are those whose steps meet `G`**, when the guarded steps
preserve an invariant that gives `P`, and a step from it that does not meet `G` loses `P`. -/
theorem into_iff_guarded {I P : σ → Prop} {G : σ → α → Prop}
    (hstep : ∀ s a s', I s → G s a → step s a s' → I s') (hprop : ∀ s, I s → P s)
    (hexact : ∀ s a s', I s → step s a s' → P s' → G s a) {s s' : σ} {as : List α} (hs : I s) :
    Run (Into step P) s as s' ↔ Run (Guarded step G) s as s' := by
  constructor
  · intro h
    induction h with
    | nil s => exact .nil s
    | cons head _ ih =>
      have hguard := hexact _ _ _ hs head.1 head.2
      exact .cons ⟨hguard, head.1⟩ (ih (hstep _ _ _ hs hguard head.1))
  · intro h
    induction h with
    | nil s => exact .nil s
    | cons head _ ih =>
      have hnext := hstep _ _ _ hs head.1 head.2
      exact .cons ⟨head.2, hprop _ hnext⟩ (ih hnext)

/-- Two conditions that agree on the steps from the states of an invariant have the same runs. -/
theorem guarded_congr {I : σ → Prop} {G G' : σ → α → Prop}
    (hstep : ∀ s a s', I s → step s a s' → I s')
    (hagree : ∀ s a s', I s → step s a s' → (G s a ↔ G' s a)) {s s' : σ} {as : List α} (hs : I s) :
    Run (Guarded step G) s as s' ↔ Run (Guarded step G') s as s' := by
  constructor
  · intro h
    induction h with
    | nil s => exact .nil s
    | cons head _ ih =>
      exact .cons ⟨(hagree _ _ _ hs head.2).mp head.1, head.2⟩ (ih (hstep _ _ _ hs head.2))
  · intro h
    induction h with
    | nil s => exact .nil s
    | cons head _ ih =>
      exact .cons ⟨(hagree _ _ _ hs head.2).mpr head.1, head.2⟩ (ih (hstep _ _ _ hs head.2))

/-- The steps that meet one condition meet another, where an invariant of theirs holds. -/
theorem guarded_imp {I : σ → Prop} {G G' : σ → α → Prop}
    (hstep : ∀ s a s', I s → G s a → step s a s' → I s')
    (himp : ∀ s a s', I s → G s a → step s a s' → G' s a) {s s' : σ} {as : List α} (hs : I s)
    (h : Run (Guarded step G) s as s') : Run (Guarded step G') s as s' := by
  induction h with
  | nil s => exact .nil s
  | cons head _ ih =>
    exact .cons ⟨himp _ _ _ hs head.1 head.2, head.2⟩ (ih (hstep _ _ _ hs head.1 head.2))

theorem forget_guard {G : σ → α → Prop} {s s' : σ} {as : List α}
    (h : Run (Guarded step G) s as s') : Run step s as s' := by
  induction h with
  | nil s => exact .nil s
  | cons head _ ih => exact .cons head.2 ih

end Run

end Transition
