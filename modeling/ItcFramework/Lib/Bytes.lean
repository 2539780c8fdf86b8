import Mathlib.Data.List.Basic
import Mathlib.Tactic.Ring

/-!
# Byte images of machine words

Memory is a list of bytes; a 32-bit word is stored in it in one of two byte orders.

* `word` / `ofWord` — the four bytes of a word and the word of four bytes, inverse to each
  other in either order; `half` / `ofHalf` — the same for 16 bits;
* `load32`, `store32`, `memcpy` — bounds-checked accesses: an access outside the block is a
  `MemFault`, never a value;
* `htonl`, `ntohl` — conversion between a host's order and the big-endian network order;
  `ofWord_word_ne` — what becomes of a word without it;
* `CString`, `strAt` — NUL-terminated strings inside a block.

An access that has succeeded was in bounds (`load32_fits`, `memcpy_fits`).
A layout is written as a concatenation of its fields, and a field is read back by giving the
bytes before it (`load32_of_eq`, `slice_of_eq`): no lemma mentions an absolute offset.
-/

set_option autoImplicit false

namespace ByteImage

abbrev Bytes := List UInt8

/-- What an access can do wrong. -/
inductive MemFault where
  | outOfBounds
  | nullDeref
  | useAfterFree
  | doubleFree
  deriving DecidableEq, Repr

/-- A pointer that must not be `NULL`. -/
def deref {α : Type} : Option α → Except MemFault α
  | some x => .ok x
  | none => .error .nullDeref

theorem deref_eq_ok {α : Type} {o : Option α} {x : α} (h : deref o = .ok x) : o = some x := by
  cases o with
  | none => cases h
  | some y => rw [Except.ok.inj h]

/-- A sequence of two computations that has succeeded. -/
theorem bind_eq_ok.{u} {α β : Type u} {x : Except MemFault α} {f : α → Except MemFault β} {b : β}
    (h : x >>= f = .ok b) : ∃ a, x = .ok a ∧ f a = .ok b := by
  cases x with
  | error fault => cases h
  | ok a => exact ⟨a, rfl, h⟩

/-- A call that has returned returned from the first of its steps; `none` is passed on. -/
theorem bind_some_eq_ok.{u} {α β : Type u} {x : Except MemFault (Option α)}
    {f : Option α → Except MemFault (Option β)} {b : β} (h : x >>= f = .ok (some b))
    (hnone : f none = .ok none) : ∃ a, x = .ok (some a) ∧ f (some a) = .ok (some b) := by
  obtain ⟨o, hx, h⟩ := bind_eq_ok h
  cases o with
  | none =>
    rw [hnone] at h
    cases h
  | some a => exact ⟨a, hx, h⟩

/-- No fault, and a call that has returned gives a result with `Q`; `none` stands for a call that
has not returned yet. -/
def Returns {α : Type} (call : Except MemFault (Option α)) (Q : α → Prop) : Prop :=
  ∃ o, call = .ok o ∧ ∀ r, o = some r → Q r

namespace Returns

variable {α : Type} {call : Except MemFault (Option α)} {Q R : α → Prop}

theorem running : Returns (.ok (none : Option α)) Q := ⟨none, rfl, fun _ h => by cases h⟩

theorem result {r : α} (h : Q r) : Returns (.ok (some r)) Q :=
  ⟨some r, rfl, fun _ hr => by cases hr; exact h⟩

theorem of_eq (h : Returns call Q) {r : α} (hr : call = .ok (some r)) : Q r := by
  obtain ⟨o, hcall, hQ⟩ := h
  rw [hcall, Except.ok.injEq] at hr
  exact hQ r hr

theorem mono (h : Returns call Q) (hQR : ∀ r, Q r → R r) : Returns call R := by
  obtain ⟨o, hcall, hQ⟩ := h
  exact ⟨o, hcall, fun r hr => hQR r (hQ r hr)⟩

theorem no_fault (h : Returns call Q) (fault : MemFault) : call ≠ .error fault := by
  obtain ⟨o, hcall, -⟩ := h
  rw [hcall]
  intro heq
  cases heq

end Returns

/-- A call that is given fuel ends with `r` once it has enough of it. -/
def Ends {α : Type} (call : Nat → Except MemFault (Option α)) (r : α) : Prop :=
  ∃ n, ∀ fuel, n ≤ fuel → call fuel = .ok (some r)

theorem Ends.unique {α : Type} {call : Nat → Except MemFault (Option α)} {r r' : α}
    (h : Ends call r) (h' : Ends call r') : r = r' := by
  obtain ⟨n, hn⟩ := h
  obtain ⟨n', hn'⟩ := h'
  have heq := (hn (max n n') (Nat.le_max_left _ _)).symm.trans (hn' _ (Nat.le_max_right _ _))
  exact Option.some.inj (Except.ok.inj heq)

/-- The only thing that can go wrong is an access outside a block. -/
def OnlyOverruns {α : Type} (call : Except MemFault α) : Prop :=
  ∀ fault, call = .error fault → fault = .outOfBounds

namespace OnlyOverruns

variable {α β : Type} {call : Except MemFault α}

theorem ok (a : α) : OnlyOverruns (.ok a) := fun _ h => by cases h

theorem overrun : OnlyOverruns (.error .outOfBounds : Except MemFault α) := fun _ h => by
  cases h
  rfl

theorem bind {f : α → Except MemFault β} (hcall : OnlyOverruns call)
    (hf : ∀ a, call = .ok a → OnlyOverruns (f a)) : OnlyOverruns (call >>= f) := by
  cases call with
  | error fault =>
    intro fault' h
    cases h
    exact hcall fault rfl
  | ok a => exact hf a rfl

end OnlyOverruns

theorem Returns.onlyOverruns {α : Type} {call : Except MemFault (Option α)} {Q : α → Prop}
    (h : Returns call Q) : OnlyOverruns call :=
  fun fault hfault => absurd hfault (h.no_fault fault)

/-- What a call has returned. -/
def returned {α : Type} (default : α) : Except MemFault (Option α) → α
  | .ok (some r) => r
  | _ => default

theorem returned_eq {α : Type} {default : α} {call : Except MemFault (Option α)}
    (h : call.map Option.isSome = .ok true) : call = .ok (some (returned default call)) := by
  match call, h with
  | .ok (some _), _ => rfl

theorem answer_eq {α β : Type} {call : Except MemFault (Option α)} {f : α → β} {b : β}
    (h : call.map (Option.map f) = .ok (some b)) : ∃ r, call = .ok (some r) ∧ f r = b := by
  match call, h with
  | .ok (some r), h => exact ⟨r, rfl, Option.some.inj (Except.ok.inj h)⟩

theorem fault_eq {α β : Type} {call : Except MemFault α} {f : α → β} {fault : MemFault}
    (h : call.map f = .error fault) : call = .error fault := by
  match call, h with
  | .error _, rfl => rfl

inductive Endian where
  | little
  | big
  deriving DecidableEq, Repr

/-! ## Words -/

/-- Least significant byte first. -/
def leBytes (w : UInt32) : Bytes :=
  [UInt8.ofNat w.toNat, UInt8.ofNat (w.toNat / 256), UInt8.ofNat (w.toNat / 65536),
    UInt8.ofNat (w.toNat / 16777216)]

def ofLeBytes : Bytes → UInt32
  | [a, b, c, d] =>
      UInt32.ofNat (a.toNat + 256 * b.toNat + 65536 * c.toNat + 16777216 * d.toNat)
  | _ => 0

def word : Endian → UInt32 → Bytes
  | .little, w => leBytes w
  | .big, w => (leBytes w).reverse

def ofWord : Endian → Bytes → UInt32
  | .little, b => ofLeBytes b
  | .big, b => ofLeBytes b.reverse

@[simp] theorem word_length (e : Endian) (w : UInt32) : (word e w).length = 4 := by
  cases e <;> rfl

theorem ofLeBytes_leBytes (w : UInt32) : ofLeBytes (leBytes w) = w := by
  apply UInt32.toNat_inj.mp
  have hw := w.toNat_lt
  simp only [leBytes, ofLeBytes, UInt8.toNat_ofNat', UInt32.toNat_ofNat']
  omega

theorem leBytes_ofLeBytes {b : Bytes} (h : b.length = 4) : leBytes (ofLeBytes b) = b := by
  match b, h with
  | [x, y, z, t], _ =>
    have hx := x.toNat_lt
    have hy := y.toNat_lt
    have hz := z.toNat_lt
    have ht := t.toNat_lt
    simp only [ofLeBytes, leBytes, UInt32.toNat_ofNat', List.cons.injEq, and_true]
    refine ⟨?_, ?_, ?_, ?_⟩ <;> apply UInt8.toNat_inj.mp <;>
      simp only [UInt8.toNat_ofNat'] <;> omega

@[simp] theorem ofWord_word (e : Endian) (w : UInt32) : ofWord e (word e w) = w := by
  cases e
  · exact ofLeBytes_leBytes w
  · simp only [word, ofWord, List.reverse_reverse]
    exact ofLeBytes_leBytes w

theorem word_ofWord (e : Endian) {b : Bytes} (h : b.length = 4) : word e (ofWord e b) = b := by
  cases e
  · exact leBytes_ofLeBytes h
  · simp only [word, ofWord]
    rw [leBytes_ofLeBytes (by simpa using h), List.reverse_reverse]

/-- The mirror image of a word of the two low bytes only is not one. -/
theorem ofLeBytes_reverse_ge {w : UInt32} (hpos : 0 < w.toNat) (hlt : w.toNat < 65536) :
    65536 ≤ (ofLeBytes (leBytes w).reverse).toNat := by
  have hthird : w.toNat / 65536 = 0 := by omega
  have hfourth : w.toNat / 16777216 = 0 := by omega
  have hsecond : w.toNat / 256 < 256 := by omega
  simp only [leBytes, List.reverse_cons, List.reverse_nil, List.nil_append, List.cons_append,
    ofLeBytes, UInt8.toNat_ofNat', UInt32.toNat_ofNat', hthird, hfourth]
  have hsplit := Nat.div_add_mod w.toNat 256
  have hlow := Nat.mod_lt w.toNat (show 256 > 0 by omega)
  generalize w.toNat / 256 = high at *
  generalize w.toNat % 256 = low at *
  simp only [Nat.reducePow]
  omega

theorem ofWord_word_ge {e e' : Endian} (hne : e ≠ e') {w : UInt32} (hpos : 0 < w.toNat)
    (hlt : w.toNat < 65536) : 65536 ≤ (ofWord e' (word e w)).toNat := by
  cases e <;> cases e'
  · exact absurd rfl hne
  · exact ofLeBytes_reverse_ge hpos hlt
  · exact ofLeBytes_reverse_ge hpos hlt
  · exact absurd rfl hne

/-- Hosts of different byte orders read different words. -/
theorem ofWord_word_ne {e e' : Endian} (hne : e ≠ e') {w : UInt32} (hpos : 0 < w.toNat)
    (hlt : w.toNat < 65536) : ofWord e' (word e w) ≠ w := by
  intro heq
  have hge := ofWord_word_ge hne hpos hlt
  rw [heq] at hge
  omega

/-- The bytes of a 16-bit word. -/
def half : Endian → UInt16 → Bytes
  | .little, w => [UInt8.ofNat w.toNat, UInt8.ofNat (w.toNat / 256)]
  | .big, w => [UInt8.ofNat (w.toNat / 256), UInt8.ofNat w.toNat]

def ofHalf : Endian → Bytes → UInt16
  | .little, [a, b] => UInt16.ofNat (a.toNat + 256 * b.toNat)
  | .big, [b, a] => UInt16.ofNat (a.toNat + 256 * b.toNat)
  | _, _ => 0

@[simp] theorem half_length (e : Endian) (w : UInt16) : (half e w).length = 2 := by
  cases e <;> rfl

@[simp] theorem ofHalf_half (e : Endian) (w : UInt16) : ofHalf e (half e w) = w := by
  have hw := w.toNat_lt
  cases e <;>
    · apply UInt16.toNat_inj.mp
      simp only [half, ofHalf, UInt8.toNat_ofNat', UInt16.toNat_ofNat']
      omega

/-! ## Network order -/

/-- The word whose host image is the network image of `w`. -/
def htonl (e : Endian) (w : UInt32) : UInt32 := ofWord e (word .big w)

def ntohl (e : Endian) (w : UInt32) : UInt32 := ofWord .big (word e w)

/-- Storing a converted word puts the network image into memory, whatever the host. -/
@[simp] theorem word_htonl (e : Endian) (w : UInt32) : word e (htonl e w) = word .big w :=
  word_ofWord e (by simp)

/-- Loading a network image and converting it gives the word back, whatever the host. -/
@[simp] theorem ntohl_ofWord_big (e : Endian) (w : UInt32) :
    ntohl e (ofWord e (word .big w)) = w := by
  rw [ntohl, word_ofWord e (by simp), ofWord_word]

/-! ## Bounds-checked accesses -/

def load8 (b : Bytes) (off : Nat) : Except MemFault UInt8 :=
  match b[off]? with
  | some x => .ok x
  | none => .error .outOfBounds

def load32 (e : Endian) (b : Bytes) (off : Nat) : Except MemFault UInt32 :=
  if off + 4 ≤ b.length then .ok (ofWord e ((b.drop off).take 4)) else .error .outOfBounds

def store8 (b : Bytes) (off : Nat) (x : UInt8) : Except MemFault Bytes :=
  if off < b.length then .ok (b.set off x) else .error .outOfBounds

/-- Overwriting the bytes of `b` from `off` on with `src`. -/
def storeBytes (b : Bytes) (off : Nat) (src : Bytes) : Except MemFault Bytes :=
  if off + src.length ≤ b.length then .ok (b.take off ++ (src ++ b.drop (off + src.length)))
  else .error .outOfBounds

def store32 (e : Endian) (b : Bytes) (off : Nat) (w : UInt32) : Except MemFault Bytes :=
  storeBytes b off (word e w)

/-- `memset(b + off, x, n)`. -/
def memset (b : Bytes) (off : Nat) (x : UInt8) (n : Nat) : Except MemFault Bytes :=
  if off + n ≤ b.length then .ok (b.take off ++ (List.replicate n x ++ b.drop (off + n)))
  else .error .outOfBounds

/-- `memcpy(dst, src, n)`. -/
def memcpy (dst src : Bytes) (n : Nat) : Except MemFault Bytes :=
  if n ≤ src.length ∧ n ≤ dst.length then .ok (src.take n ++ dst.drop n)
  else .error .outOfBounds

/-- The `n` bytes from `off` on. -/
def slice (b : Bytes) (off n : Nat) : Except MemFault Bytes :=
  if off + n ≤ b.length then .ok ((b.drop off).take n) else .error .outOfBounds

theorem load8_onlyOverruns (b : Bytes) (off : Nat) : OnlyOverruns (load8 b off) := by
  unfold load8
  split
  · exact .ok _
  · exact .overrun

theorem load32_onlyOverruns (e : Endian) (b : Bytes) (off : Nat) :
    OnlyOverruns (load32 e b off) := by
  unfold load32
  split
  · exact .ok _
  · exact .overrun

theorem storeBytes_onlyOverruns (b : Bytes) (off : Nat) (src : Bytes) :
    OnlyOverruns (storeBytes b off src) := by
  unfold storeBytes
  split
  · exact .ok _
  · exact .overrun

theorem memset_onlyOverruns (b : Bytes) (off : Nat) (x : UInt8) (n : Nat) :
    OnlyOverruns (memset b off x n) := by
  unfold memset
  split
  · exact .ok _
  · exact .overrun

theorem slice_onlyOverruns (b : Bytes) (off n : Nat) : OnlyOverruns (slice b off n) := by
  unfold slice
  split
  · exact .ok _
  · exact .overrun

theorem load32_fits {e : Endian} {b : Bytes} {off : Nat} {w : UInt32}
    (h : load32 e b off = .ok w) : off + 4 ≤ b.length ∧ w = ofWord e ((b.drop off).take 4) := by
  unfold load32 at h
  split at h
  · next hfit => exact ⟨hfit, (Except.ok.inj h).symm⟩
  · cases h

theorem store8_fits {b b' : Bytes} {off : Nat} {x : UInt8} (h : store8 b off x = .ok b') :
    off < b.length := by
  unfold store8 at h
  split at h
  · assumption
  · cases h

theorem storeBytes_fits {b b' src : Bytes} {off : Nat} (h : storeBytes b off src = .ok b') :
    off + src.length ≤ b.length ∧ b'.length = b.length := by
  unfold storeBytes at h
  split at h
  · next hfit =>
    cases h
    refine ⟨hfit, ?_⟩
    simp only [List.length_append, List.length_take, List.length_drop]
    omega
  · cases h

theorem memset_fits {b b' : Bytes} {off n : Nat} {x : UInt8} (h : memset b off x n = .ok b') :
    off + n ≤ b.length := by
  unfold memset at h
  split at h
  · assumption
  · cases h

theorem memcpy_fits {dst src b' : Bytes} {n : Nat} (h : memcpy dst src n = .ok b') :
    n ≤ src.length ∧ n ≤ dst.length ∧ b' = src.take n ++ dst.drop n := by
  unfold memcpy at h
  split at h
  · next hfit => exact ⟨hfit.1, hfit.2, (Except.ok.inj h).symm⟩
  · cases h

theorem load8_of_eq {bs a c : Bytes} {x : UInt8} {i : Nat} (hbs : bs = a ++ x :: c)
    (hi : i = a.length) : load8 bs i = .ok x := by
  subst hbs hi
  simp [load8]

theorem load32_of_eq {e : Endian} {bs a c : Bytes} {w : UInt32} {i : Nat}
    (hbs : bs = a ++ (word e w ++ c)) (hi : i = a.length) : load32 e bs i = .ok w := by
  subst hbs hi
  have h4 : (word e w).length = 4 := word_length e w
  rw [load32, if_pos (by simp), List.drop_left, List.take_left' h4, ofWord_word]

/-- The same when the field holds a network-order word: the value read still has to be
converted. -/
theorem load32_big_of_eq {e : Endian} {bs a c : Bytes} {w : UInt32} {i : Nat}
    (hbs : bs = a ++ (word .big w ++ c)) (hi : i = a.length) :
    load32 e bs i = .ok (htonl e w) := by
  rw [← word_htonl e w] at hbs
  exact load32_of_eq hbs hi

@[simp] theorem ntohl_htonl (e : Endian) (w : UInt32) : ntohl e (htonl e w) = w :=
  ntohl_ofWord_big e w

theorem slice_of_eq {bs a b c : Bytes} {i n : Nat} (hbs : bs = a ++ (b ++ c))
    (hi : i = a.length) (hn : n = b.length) : slice bs i n = .ok b := by
  subst hbs hi hn
  rw [slice, if_pos (by simp), List.drop_left, List.take_left]

/-! Accesses behind the first part of a block. -/

theorem load8_append (a b : Bytes) (off : Nat) : load8 (a ++ b) (a.length + off) = load8 b off := by
  unfold load8
  rw [List.getElem?_append_right (Nat.le_add_right _ _), Nat.add_sub_cancel_left]

theorem storeBytes_append (a b : Bytes) (off : Nat) (src : Bytes) :
    storeBytes (a ++ b) (a.length + off) src = (storeBytes b off src).map (a ++ ·) := by
  unfold storeBytes
  rw [List.length_append, List.take_length_add_append, Nat.add_assoc, List.drop_length_add_append]
  by_cases h : off + src.length ≤ b.length
  · rw [if_pos h, if_pos (by omega), List.append_assoc]
    rfl
  · rw [if_neg h, if_neg (by omega)]
    rfl

theorem storeBytes_of_eq {b a o src c : Bytes} {i : Nat} (hb : b = a ++ (o ++ c))
    (hi : i = a.length) (hlen : src.length = o.length) :
    storeBytes b i src = .ok (a ++ (src ++ c)) := by
  subst hb hi
  have hd : (a ++ (o ++ c)).drop (a.length + src.length) = c := by
    rw [hlen, ← List.length_append, ← List.append_assoc, List.drop_left]
  rw [storeBytes, if_pos (by simp [hlen]), List.take_left, hd]

theorem store32_of_eq {e : Endian} {b a o c : Bytes} {w : UInt32} {i : Nat}
    (hb : b = a ++ (o ++ c)) (hi : i = a.length) (hlen : o.length = 4) :
    store32 e b i w = .ok (a ++ (word e w ++ c)) :=
  storeBytes_of_eq hb hi (by rw [word_length, hlen])

theorem store8_of_eq {b a c : Bytes} {x y : UInt8} {i : Nat} (hb : b = a ++ x :: c)
    (hi : i = a.length) : store8 b i y = .ok (a ++ y :: c) := by
  subst hb hi
  rw [store8, if_pos (by simp), List.set_append_right _ _ (Nat.le_refl _), Nat.sub_self]
  rfl

theorem memset_of_eq {b a o c : Bytes} {x : UInt8} {i n : Nat} (hb : b = a ++ (o ++ c))
    (hi : i = a.length) (hn : n = o.length) :
    memset b i x n = .ok (a ++ (List.replicate n x ++ c)) := by
  subst hb hi
  have hd : (a ++ (o ++ c)).drop (a.length + n) = c := by
    rw [hn, ← List.length_append, ← List.append_assoc, List.drop_left]
  rw [memset, if_pos (by simp [hn]), List.take_left, hd]

theorem memcpy_of_eq {dst src a c : Bytes} {n : Nat} (hsrc : src = a ++ c) (hn : n = a.length)
    (hdst : n ≤ dst.length) : memcpy dst src n = .ok (a ++ dst.drop n) := by
  subst hsrc
  rw [memcpy, if_pos ⟨by simp [hn], hdst⟩, hn, List.take_left]

/-! ## NUL-terminated strings -/

/-- A C string: the bytes before its terminator. -/
structure CString where
  bytes : Bytes
  noNul : 0 ∉ bytes
  deriving DecidableEq, Repr

namespace CString

def empty : CString := ⟨[], by simp⟩

def strlen (s : CString) : Nat := s.bytes.length

/-- What `strcpy` writes. -/
def withNul (s : CString) : Bytes := s.bytes ++ [0]

@[simp] theorem withNul_length (s : CString) : s.withNul.length = s.strlen + 1 := by
  simp [withNul, strlen]

theorem ext_bytes {s t : CString} (h : s.bytes = t.bytes) : s = t := by
  cases s
  cases t
  cases h
  rfl

end CString

/-- `strcmp`: the first differing byte decides, as an unsigned one. -/
def CString.strcmp (s t : CString) : Ordering := List.compareLex compare s.bytes t.bytes

/-- The order of the bytes alone. -/
abbrev byteLex : Bytes → Bytes → Ordering := List.compareLex compare

instance : Std.TransCmp CString.strcmp where
  eq_swap := (inferInstance : Std.TransCmp byteLex).eq_swap
  isLE_trans := (inferInstance : Std.TransCmp byteLex).isLE_trans

instance : Std.LawfulEqCmp CString.strcmp where
  compare_self := (inferInstance : Std.LawfulEqCmp byteLex).compare_self
  eq_of_compare h := CString.ext_bytes ((inferInstance : Std.LawfulEqCmp byteLex).eq_of_compare h)

/-- The bytes before the first NUL; `none` when there is no NUL. -/
def untilNul : Bytes → Option CString
  | [] => none
  | b :: bs =>
      if h : b = 0 then some .empty
      else (untilNul bs).map fun s => ⟨b :: s.bytes, by simp [s.noNul, Ne.symm h]⟩

/-- The string at offset `off`: running past the block is a fault. -/
def strAt (b : Bytes) (off : Nat) : Except MemFault CString :=
  match untilNul (b.drop off) with
  | some s => .ok s
  | none => .error .outOfBounds

theorem strAt_onlyOverruns (b : Bytes) (off : Nat) : OnlyOverruns (strAt b off) := by
  unfold strAt
  split
  · exact .ok _
  · exact .overrun

theorem untilNul_append (bs : Bytes) (h : 0 ∉ bs) (c : Bytes) :
    untilNul (bs ++ 0 :: c) = some ⟨bs, h⟩ := by
  induction bs with
  | nil => simp [untilNul, CString.empty]
  | cons b bs ih =>
    have hb : ¬ b = 0 := fun e => h (by simp [e])
    have hbs : 0 ∉ bs := fun e => h (List.mem_cons_of_mem _ e)
    rw [List.cons_append, untilNul, dif_neg hb, ih hbs]
    rfl

theorem strAt_of_eq {bs a c : Bytes} {s : CString} {i : Nat} (hbs : bs = a ++ (s.withNul ++ c))
    (hi : i = a.length) : strAt bs i = .ok s := by
  subst hbs hi
  have : s.withNul ++ c = s.bytes ++ 0 :: c := by simp [CString.withNul]
  rw [strAt, List.drop_left, this, untilNul_append s.bytes s.noNul]

end ByteImage
