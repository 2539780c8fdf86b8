import Mathlib.Data.List.Basic

/-!
# Loops that may run for ever

A loop is a partial function `next` on the states before its passes: it is undefined where the
loop ends.

* `stateAt next n s` — the state before the pass `n` of the loop that starts in `s`;
* `Stops`, `FinitelyOften` — the loop ends; only finitely many passes start with `P`;
* `stops_iff_finitelyOften` — a loop that goes on only from states with `P` ends just when `P`
  occurs finitely often;
* `not_stops_of_invariant` — a loop that can always go on does not end.
-/

set_option autoImplicit false

namespace Iteration

variable {σ : Type*} {next : σ → Option σ} {P Q : σ → Prop} {s t : σ} {n : Nat}

def stateAt (next : σ → Option σ) : Nat → σ → Option σ
  | 0, s => some s
  | n + 1, s => (next s).bind (stateAt next n)

def Stops (next : σ → Option σ) (s : σ) : Prop := ∃ n, stateAt next n s = none

def FinitelyOften (next : σ → Option σ) (P : σ → Prop) (s : σ) : Prop :=
  ∃ N, ∀ n, N ≤ n → ∀ t, stateAt next n s = some t → ¬ P t

theorem stateAt_succ (n : Nat) (s : σ) : stateAt next (n + 1) s = (stateAt next n s).bind next := by
  induction n generalizing s with
  | zero =>
    show (next s).bind some = next s
    cases next s with
    | none => rfl
    | some t => rfl
  | succ n ih =>
    rw [stateAt]
    cases hnext : next s with
    | none => rw [stateAt, hnext]; rfl
    | some s' =>
      rw [stateAt, hnext]
      exact ih s'

/-- A loop that has ended does not come back. -/
theorem stateAt_none_mono {m : Nat} (hle : n ≤ m) (h : stateAt next n s = none) :
    stateAt next m s = none := by
  induction hle with
  | refl => exact h
  | step _ ih => rw [stateAt_succ, ih]; rfl

/-- In a loop that ends, everything occurs finitely often. -/
theorem FinitelyOften.of_stops (h : Stops next s) : FinitelyOften next P s := by
  obtain ⟨N, hN⟩ := h
  refine ⟨N, fun n hle t ht => ?_⟩
  rw [stateAt_none_mono hle hN] at ht
  cases ht

theorem FinitelyOften.or (hP : FinitelyOften next P s) (hQ : FinitelyOften next Q s) :
    FinitelyOften next (fun t => P t ∨ Q t) s := by
  obtain ⟨N, hP⟩ := hP
  obtain ⟨M, hQ⟩ := hQ
  refine ⟨max N M, fun n hle t ht => ?_⟩
  rintro (h | h)
  · exact hP n (by omega) t ht h
  · exact hQ n (by omega) t ht h

/-- **A loop that goes on only from states with `P` ends just when `P` occurs finitely often.** -/
theorem stops_iff_finitelyOften (h : ∀ s t, next s = some t → P s) :
    Stops next s ↔ FinitelyOften next P s := by
  constructor
  · exact .of_stops
  · rintro ⟨N, hN⟩
    apply Exists.intro (N + 1)
    rw [stateAt_succ]
    cases hstate : stateAt next N s with
    | none => rfl
    | some t =>
      show next t = none
      cases hnext : next t with
      | none => rfl
      | some t' => exact absurd (h t t' hnext) (hN N (Nat.le_refl N) t hstate)

/-- A loop that can always go on does not end. -/
theorem not_stops_of_invariant {I : σ → Prop} (hstep : ∀ s, I s → ∃ t, next s = some t ∧ I t)
    (hs : I s) : ¬ Stops next s := by
  rintro ⟨n, hn⟩
  induction n generalizing s with
  | zero => cases hn
  | succ n ih =>
    obtain ⟨t, hnext, ht⟩ := hstep s hs
    rw [stateAt, hnext] at hn
    exact ih ht hn

end Iteration
