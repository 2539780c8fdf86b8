import ItcFramework.Lib.Bytes

/-!
# Mapped segments

A segment of memory that several programs map: its size and its bytes, given by their addresses
in the segment. An access outside it is a `MemFault`.

* `Region.read`, `Region.write` — bounds-checked accesses; a write that is in bounds is
  `Region.overwrite`.
* `Region.bytesAt_overwrite_self`, `Region.bytesAt_overwrite_of_disjoint` — what is read after it.
* `Region.ChangesOnly` — the frame: outside the addresses `W` two segments agree.
-/

set_option autoImplicit false

namespace ByteImage

structure Region where
  size : Nat
  byte : Nat → UInt8

/-- `k` is one of the `n` addresses from `off` on. -/
def Within (off n k : Nat) : Prop := off ≤ k ∧ k < off + n

namespace Region

def zeroed (size : Nat) : Region := ⟨size, fun _ => 0⟩

def bytesAt (m : Region) (off n : Nat) : Bytes := (List.range n).map fun k => m.byte (off + k)

def read (m : Region) (off n : Nat) : Except MemFault Bytes :=
  if off + n ≤ m.size then .ok (m.bytesAt off n) else .error .outOfBounds

def overwrite (m : Region) (off : Nat) (src : Bytes) : Region :=
  { m with
    byte := fun k => if off ≤ k ∧ k < off + src.length then src.getD (k - off) 0 else m.byte k }

def write (m : Region) (off : Nat) (src : Bytes) : Except MemFault Region :=
  if off + src.length ≤ m.size then .ok (m.overwrite off src) else .error .outOfBounds

/-- All bytes. -/
def bytes (m : Region) : Bytes := m.bytesAt 0 m.size

variable {m m' m'' : Region} {off n : Nat} {src : Bytes}

theorem read_ok (h : off + n ≤ m.size) : m.read off n = .ok (m.bytesAt off n) := if_pos h

theorem write_ok (h : off + src.length ≤ m.size) : m.write off src = .ok (m.overwrite off src) :=
  if_pos h

@[simp] theorem overwrite_size (m : Region) (off : Nat) (src : Bytes) :
    (m.overwrite off src).size = m.size := rfl

@[simp] theorem bytesAt_length (m : Region) (off n : Nat) : (m.bytesAt off n).length = n := by
  simp [bytesAt]

theorem bytesAt_add (m : Region) (off n n' : Nat) :
    m.bytesAt off (n + n') = m.bytesAt off n ++ m.bytesAt (off + n) n' := by
  unfold bytesAt
  rw [List.range_add, List.map_append, List.map_map]
  simp [Function.comp_def, Nat.add_assoc]

theorem bytesAt_congr (h : ∀ k, Within off n k → m'.byte k = m.byte k) :
    m'.bytesAt off n = m.bytesAt off n := by
  unfold bytesAt
  apply List.map_congr_left
  intro k hk
  have hlt := List.mem_range.mp hk
  exact h (off + k) ⟨Nat.le_add_right _ _, by omega⟩

theorem bytesAt_overwrite_self (m : Region) (off : Nat) (src : Bytes) :
    (m.overwrite off src).bytesAt off src.length = src := by
  unfold bytesAt overwrite
  apply List.ext_getElem
  · simp
  · intro k _ hk
    simp [hk]

theorem bytesAt_overwrite_of_disjoint {off' : Nat}
    (h : off' + n ≤ off ∨ off + src.length ≤ off') :
    (m.overwrite off src).bytesAt off' n = m.bytesAt off' n := by
  apply bytesAt_congr
  rintro k ⟨hle, hlt⟩
  unfold overwrite
  apply if_neg
  omega

/-- Two adjacent writes are one. -/
theorem overwrite_append (m : Region) (off : Nat) (src src' : Bytes) :
    (m.overwrite off src).overwrite (off + src.length) src' = m.overwrite off (src ++ src') := by
  unfold overwrite
  congr 1
  funext k
  simp only [List.length_append, List.getD_eq_getElem?_getD]
  by_cases h : off ≤ k ∧ k < off + src.length
  · rw [if_neg (by omega), if_pos h, if_pos (by omega), List.getElem?_append_left (by omega)]
  · by_cases h' : off + src.length ≤ k ∧ k < off + src.length + src'.length
    · rw [if_pos h', if_pos (by omega), List.getElem?_append_right (by omega), Nat.sub_add_eq]
    · rw [if_neg h', if_neg h, if_neg (by omega)]

/-! ## Frames -/

/-- Outside the addresses `W` the segments agree. -/
structure ChangesOnly (m m' : Region) (W : Nat → Prop) : Prop where
  size : m'.size = m.size
  byte : ∀ k, ¬ W k → m'.byte k = m.byte k

variable {W W' : Nat → Prop}

theorem ChangesOnly.refl (m : Region) (W : Nat → Prop) : m.ChangesOnly m W := ⟨rfl, fun _ _ => rfl⟩

theorem ChangesOnly.trans (h : m.ChangesOnly m' W) (h' : m'.ChangesOnly m'' W) :
    m.ChangesOnly m'' W :=
  ⟨h'.size.trans h.size, fun k hk => (h'.byte k hk).trans (h.byte k hk)⟩

theorem ChangesOnly.mono (h : m.ChangesOnly m' W) (hW : ∀ k, W k → W' k) :
    m.ChangesOnly m' W' :=
  ⟨h.size, fun k hk => h.byte k fun hk' => hk (hW k hk')⟩

theorem ChangesOnly.overwrite (h : m.ChangesOnly m' W)
    (hW : ∀ k, Within off src.length k → W k) : m.ChangesOnly (m'.overwrite off src) W := by
  refine h.trans ⟨rfl, fun k hk => ?_⟩
  unfold Region.overwrite
  apply if_neg
  exact fun hk' => hk (hW k hk')

end Region

end ByteImage
