import ItcFramework.Lib.Bytes

/-!
# Pointer variables

A variable that points to a block of its own. `free` ends the block and does not touch the
variable, which dangles until something is stored in it.

* `Ptr.read` — through the variable.
* `Ptr.free` — what the variable is after `free`, which accepts `NULL`.
-/

set_option autoImplicit false

namespace ByteImage

inductive Ptr (α : Type*) where
  | null
  | live (a : α)
  | dangling
  deriving DecidableEq, Repr

namespace Ptr

variable {α : Type*}

def isNull : Ptr α → Bool
  | .null => true
  | _ => false

def read : Ptr α → Except MemFault α
  | .null => .error .nullDeref
  | .live a => .ok a
  | .dangling => .error .useAfterFree

def free : Ptr α → Except MemFault (Ptr α)
  | .null => .ok .null
  | .live _ => .ok .dangling
  | .dangling => .error .doubleFree

@[simp] theorem read_live (a : α) : (Ptr.live a).read = .ok a := rfl

theorem isNull_iff (p : Ptr α) : p.isNull = true ↔ p = .null := by
  cases p <;> simp [isNull]

theorem live_ne_null (a : α) : Ptr.live a ≠ .null := by
  intro h
  cases h

theorem read_eq_ok {p : Ptr α} {a : α} (h : p.read = .ok a) : p = .live a := by
  cases p with
  | null => cases h
  | live b => cases h; rfl
  | dangling => cases h

end Ptr

end ByteImage
