import ItcFramework.Lib.Transition

/-!
# Simulations between labelled transition systems

Two systems with the same actions.

* `Simulation step step' R` — from related states `step'` can do what `step` does, and the states
  reached are related.
* `Simulation.run` — a run of the one is a run of the other.
-/

set_option autoImplicit false

namespace Transition

variable {σ τ α : Type*}

structure Simulation (step : σ → α → σ → Prop) (step' : τ → α → τ → Prop) (R : σ → τ → Prop) :
    Prop where
  forward : ∀ s a s₁ t, R s t → step s a s₁ → ∃ t₁, step' t a t₁ ∧ R s₁ t₁

variable {step : σ → α → σ → Prop} {step' : τ → α → τ → Prop} {R : σ → τ → Prop}

namespace Simulation

/-- **A run of the one system is a run of the other**, between related states. -/
theorem run (h : Simulation step step' R) {s s' : σ} {t : τ} {as : List α} (hR : R s t)
    (hrun : Run step s as s') : ∃ t', Run step' t as t' ∧ R s' t' := by
  induction hrun generalizing t with
  | nil s => exact ⟨t, .nil t, hR⟩
  | cons head _ ih =>
    obtain ⟨t₁, hstep, hR₁⟩ := h.forward _ _ _ _ hR head
    obtain ⟨t', htail, hR'⟩ := ih hR₁
    exact ⟨t', .cons hstep htail, hR'⟩

end Simulation

end Transition
