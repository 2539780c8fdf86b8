import Mathlib.Logic.Basic

/-!
# Programs over one variable

Programs that read and change a state and may fail, and what they guarantee.

* `Triple P m Q` — from every state with `P`, `m` does not fail, and ends with `Q`.
* `Keeps P m` — `m` does not fail, and keeps `P`.
* `Triple.bind`, `Triple.ite`, `Keeps.forM`, `Keeps.forUntil` — the rules for the ways to compose
  programs.
-/

set_option autoImplicit false

namespace StateProgram

variable {σ ε α β : Type}

def Triple (P : σ → Prop) (m : StateT σ (Except ε) α) (Q : α → σ → Prop) : Prop :=
  ∀ s, P s → ∃ a s', m s = .ok (a, s') ∧ Q a s'

abbrev Keeps (P : σ → Prop) (m : StateT σ (Except ε) α) : Prop := Triple P m fun _ => P

variable {P R : σ → Prop} {m : StateT σ (Except ε) α} {Q Q' : α → σ → Prop}

namespace Triple

theorem pure {a : α} (h : ∀ s, P s → Q a s) :
    Triple P (Pure.pure a : StateT σ (Except ε) α) Q :=
  fun s hs => ⟨a, s, rfl, h s hs⟩

theorem bind {f : α → StateT σ (Except ε) β} {Q' : β → σ → Prop} (hm : Triple P m Q)
    (hf : ∀ a, Triple (Q a) (f a) Q') : Triple P (m >>= f) Q' := by
  intro s hs
  obtain ⟨a, s₁, hcall, hQ⟩ := hm s hs
  obtain ⟨b, s₂, hnext, hQ'⟩ := hf a s₁ hQ
  refine ⟨b, s₂, ?_, hQ'⟩
  change (m s >>= fun r => f r.1 r.2) = _
  rw [hcall]
  exact hnext

theorem conseq (h : Triple P m Q) (hPR : ∀ s, R s → P s) (hQQ' : ∀ a s, Q a s → Q' a s) :
    Triple R m Q' := by
  intro s hs
  obtain ⟨a, s', hcall, hQ⟩ := h s (hPR s hs)
  exact ⟨a, s', hcall, hQQ' a s' hQ⟩

theorem ite {c : Prop} [Decidable c] {n : StateT σ (Except ε) α} (hm : c → Triple P m Q)
    (hn : ¬ c → Triple P n Q) : Triple P (if c then m else n) Q := by
  by_cases hc : c
  · rw [if_pos hc]
    exact hm hc
  · rw [if_neg hc]
    exact hn hc

end Triple

/-- `m` on the elements in order, up to the first on which it gives `true`. -/
def forUntil (m : α → StateT σ (Except ε) Bool) : List α → StateT σ (Except ε) Bool
  | [] => Pure.pure false
  | a :: as => do if ← m a then Pure.pure true else forUntil m as

namespace Keeps

theorem pure {a : α} : Keeps P (Pure.pure a : StateT σ (Except ε) α) := Triple.pure fun _ hs => hs

theorem bind {f : α → StateT σ (Except ε) β} (hm : Keeps P m) (hf : ∀ a, Keeps P (f a)) :
    Keeps P (m >>= f) := Triple.bind hm hf

theorem forM {n : α → StateT σ (Except ε) PUnit} (h : ∀ a, Keeps P (n a)) (as : List α) :
    Keeps P (as.forM n) := by
  induction as with
  | nil => exact pure
  | cons a as ih => exact (h a).bind fun _ => ih

theorem forUntil {n : α → StateT σ (Except ε) Bool} (h : ∀ a, Keeps P (n a)) (as : List α) :
    Keeps P (forUntil n as) := by
  induction as with
  | nil => exact pure
  | cons a as ih => exact (h a).bind fun _ => Triple.ite (fun _ => pure) fun _ => ih

end Keeps

end StateProgram
