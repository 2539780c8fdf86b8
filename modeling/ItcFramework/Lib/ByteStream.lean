import ItcFramework.Lib.Bytes

/-!
# Byte streams cut into chunks

A stream socket hands out the bytes written to it in order, but in pieces of its own choosing.
The pieces are kept as a list of nonempty chunks; a read takes at most one of them.

* `ByteStream` — the chunks still to be read, none of them empty;
* `recv` — one read of at most `n` bytes; `recv_bytes`, `recv_length_le`, `recv_length_pos` are
  all that a reader may rely on.
-/

set_option autoImplicit false

namespace ByteImage

/-- The bytes still to be read, in the pieces in which they will arrive. -/
structure ByteStream where
  chunks : List Bytes
  nonempty : ∀ c ∈ chunks, c ≠ []
  deriving DecidableEq, Repr

namespace ByteStream

/-- What is read in the end, however it is cut. -/
def bytes (s : ByteStream) : Bytes := s.chunks.flatten

/-- One read of at most `n` bytes. No bytes are read from a finished stream, nor by a read that
asks for none. -/
def recv (s : ByteStream) (n : Nat) : Bytes × ByteStream :=
  match s with
  | ⟨[], h⟩ => ([], ⟨[], h⟩)
  | ⟨c :: cs, h⟩ =>
      if hlen : c.length ≤ n then (c, ⟨cs, fun x hx => h x (List.mem_cons_of_mem _ hx)⟩)
      else (c.take n, ⟨c.drop n :: cs, fun x hx => by
        rcases List.mem_cons.mp hx with rfl | hx
        · exact fun e => hlen (List.drop_eq_nil_iff.mp e)
        · exact h x (List.mem_cons_of_mem _ hx)⟩)

theorem recv_bytes (s : ByteStream) (n : Nat) :
    (s.recv n).1 ++ (s.recv n).2.bytes = s.bytes := by
  obtain ⟨_ | ⟨c, cs⟩, h⟩ := s
  · rfl
  · unfold recv
    dsimp only
    split
    · rfl
    · simp only [bytes, List.flatten_cons, ← List.append_assoc, List.take_append_drop]

theorem recv_length_le (s : ByteStream) (n : Nat) : (s.recv n).1.length ≤ n := by
  obtain ⟨_ | ⟨c, cs⟩, h⟩ := s
  · exact Nat.zero_le n
  · unfold recv
    dsimp only
    split
    · assumption
    · simp

/-- A read that asks for something and has something to read makes progress. -/
theorem recv_length_pos {s : ByteStream} {n : Nat} (hs : s.bytes ≠ []) (hn : 0 < n) :
    0 < (s.recv n).1.length := by
  obtain ⟨_ | ⟨c, cs⟩, h⟩ := s
  · exact absurd rfl hs
  · have hc : 0 < c.length := List.length_pos_of_ne_nil (h c List.mem_cons_self)
    unfold recv
    dsimp only
    split
    · exact hc
    · simp only [List.length_take]
      omega

end ByteStream

end ByteImage
