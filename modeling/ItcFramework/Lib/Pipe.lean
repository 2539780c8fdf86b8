import Mathlib.Data.List.Forall2

/-!
# Pipes that carry records

A reliable stream between a writer and a reader, with what was written to it and what was made of
what was read.

* `Pipe` — what is on its way, and the two logs.
* `Carries enc R` — what was written is what was read and then what is on its way, whole records in
  order; `R` relates a record to what the reader makes of it.
* `Carries.write`, `Carries.next` — the rules.
-/

set_option autoImplicit false

variable {β φ ε : Type*}

structure Pipe (β φ ε : Type*) where
  pending : List β
  sent : List φ
  got : List ε

namespace Pipe

def empty : Pipe β φ ε := ⟨[], [], []⟩

/-- A record has been written as `b`; without a record `b` is just written. -/
def write (p : Pipe β φ ε) (b : List β) (f : Option φ) : Pipe β φ ε :=
  ⟨p.pending ++ b, p.sent ++ f.toList, p.got⟩

/-- The record is written so many times. -/
def writes (p : Pipe β φ ε) (b : List β) (f : Option φ) : Nat → Pipe β φ ε
  | 0 => p
  | n + 1 => (p.writes b f n).write b f

/-- The reader has made `v` of what it has read, which leaves `rest`. -/
def read (p : Pipe β φ ε) (rest : List β) (v : ε) : Pipe β φ ε := ⟨rest, p.sent, p.got ++ [v]⟩

@[simp] theorem write_sent (p : Pipe β φ ε) (b : List β) (f : Option φ) :
    (p.write b f).sent = p.sent ++ f.toList := rfl

@[simp] theorem write_got (p : Pipe β φ ε) (b : List β) (f : Option φ) :
    (p.write b f).got = p.got := rfl

@[simp] theorem writes_sent (p : Pipe β φ ε) (b : List β) (f : φ) (n : Nat) :
    (p.writes b (some f) n).sent = p.sent ++ List.replicate n f := by
  induction n with
  | zero => rw [List.replicate_zero, List.append_nil, writes]
  | succ n ih => rw [writes, write_sent, ih, List.replicate_succ', ← List.append_assoc,
      Option.toList_some]

@[simp] theorem writes_got (p : Pipe β φ ε) (b : List β) (f : Option φ) (n : Nat) :
    (p.writes b f n).got = p.got := by
  induction n with
  | zero => rfl
  | succ n ih => rw [writes, write_got, ih]

@[simp] theorem read_sent (p : Pipe β φ ε) (rest : List β) (v : ε) :
    (p.read rest v).sent = p.sent := rfl

@[simp] theorem read_got (p : Pipe β φ ε) (rest : List β) (v : ε) :
    (p.read rest v).got = p.got ++ [v] := rfl

@[simp] theorem read_pending (p : Pipe β φ ε) (rest : List β) (v : ε) :
    (p.read rest v).pending = rest := rfl

/-- A record `f` is written as `enc f`, and read as what `R f` allows. -/
structure Carries (enc : φ → List β) (R : φ → ε → Prop) (p : Pipe β φ ε) : Prop where
  split : ∃ done rest, p.sent = done ++ rest ∧ List.Forall₂ R done p.got ∧
    p.pending = rest.flatMap enc

variable {enc : φ → List β} {R : φ → ε → Prop} {p : Pipe β φ ε}

theorem Carries.empty : Carries enc R Pipe.empty := ⟨[], [], rfl, .nil, rfl⟩

theorem Carries.write (h : p.Carries enc R) (f : φ) : (p.write (enc f) (some f)).Carries enc R := by
  obtain ⟨done, rest, hsent, hgot, hpending⟩ := h.split
  refine ⟨done, rest ++ [f], ?_, hgot, ?_⟩
  · rw [write_sent, hsent, Option.toList_some, List.append_assoc]
  · rw [Pipe.write, hpending, List.flatMap_append, List.flatMap_singleton]

theorem Carries.writes (h : p.Carries enc R) (f : φ) (n : Nat) :
    (p.writes (enc f) (some f) n).Carries enc R := by
  induction n with
  | zero => exact h
  | succ n ih => exact ih.write f

/-- **What is on its way begins with a record**, and reading that one keeps the pipe. -/
theorem Carries.next (h : p.Carries enc R) (hne : p.pending ≠ []) :
    ∃ f rest, f ∈ p.sent ∧ p.pending = enc f ++ rest ∧
      ∀ v, R f v → (p.read rest v).Carries enc R := by
  obtain ⟨done, todo, hsent, hgot, hpending⟩ := h.split
  cases todo with
  | nil => exact absurd hpending hne
  | cons f todo =>
    refine ⟨f, todo.flatMap enc, ?_, hpending, fun v hv => ⟨done ++ [f], todo, ?_, ?_, rfl⟩⟩
    · rw [hsent]
      exact List.mem_append_right done List.mem_cons_self
    · rw [read_sent, hsent, List.append_assoc, List.singleton_append]
    · exact List.rel_append hgot (.cons hv .nil)

end Pipe
