import ItcFramework.Lib.Bytes
import Mathlib.Data.List.DropRight
import Mathlib.Data.List.TakeWhile
import Mathlib.Data.Nat.Digits.Lemmas

/-!
# Formatted input

The part of `sscanf` that reads strings up to a stop byte and decimal numbers of 16 bits, and the
decimal numbers that `%hu` prints.

* `ScanDirective`, `scanFormat` — a format string; a white-space byte in it stands for any amount of
  white space, none included.
* `scan` — what is assigned, in order, up to the first directive that fails.
* `decimal`, `ofDecimal` — a number in digits and back; `scan_hu` reads what `%hu` prints.
* `scan_literal`, `scan_until` — the steps of a scan over a text that matches.
-/

set_option autoImplicit false

namespace ByteImage

/-- The bytes before the first NUL. -/
def CString.ofBytes (b : Bytes) : CString where
  bytes := b.takeWhile (· != 0)
  noNul := by
    intro hmem
    have hne := List.mem_takeWhile_imp hmem
    simp at hne

/-! ## Decimal numbers -/

def isDigit (b : UInt8) : Bool := 48 ≤ b && b ≤ 57

/-- What `%u` prints. -/
def decimal (n : Nat) : Bytes :=
  if n = 0 then [48] else (Nat.digits 10 n).reverse.map fun d => UInt8.ofNat (48 + d)

def ofDecimal (b : Bytes) : Nat := b.foldl (fun acc d => 10 * acc + (d.toNat - 48)) 0

theorem decimal_ne_nil (n : Nat) : decimal n ≠ [] := by
  unfold decimal
  split
  · exact List.cons_ne_nil _ _
  · next hn =>
    intro hnil
    rw [List.map_eq_nil_iff, List.reverse_eq_nil_iff] at hnil
    exact Nat.digits_ne_nil_iff_ne_zero.mpr hn hnil

theorem isDigit_ofNat : ∀ d, d < 10 → isDigit (UInt8.ofNat (48 + d)) = true := by decide

theorem decimal_isDigit (n : Nat) : ∀ b ∈ decimal n, isDigit b = true := by
  unfold decimal
  split
  · intro b hb
    rw [List.mem_singleton.mp hb]
    rfl
  · intro b hb
    obtain ⟨d, hd, rfl⟩ := List.mem_map.mp hb
    exact isDigit_ofNat d (Nat.digits_lt_base (by omega) (List.mem_reverse.mp hd))

theorem ofDecimal_decimal (n : Nat) : ofDecimal (decimal n) = n := by
  unfold decimal
  split
  · next hn => rw [hn]; rfl
  · have hdigits : ∀ l : List Nat, (∀ d ∈ l, d < 10) →
        ofDecimal (l.reverse.map fun d => UInt8.ofNat (48 + d)) = Nat.ofDigits 10 l := by
      intro l hl
      induction l with
      | nil => rfl
      | cons d l ih =>
        have hd := hl d List.mem_cons_self
        have htail := ih fun x hx => hl x (List.mem_cons_of_mem _ hx)
        simp only [ofDecimal] at htail
        simp only [ofDecimal, List.reverse_cons, List.map_append, List.map_cons, List.map_nil,
          List.foldl_append, List.foldl_cons, List.foldl_nil, htail, UInt8.toNat_ofNat',
          Nat.ofDigits_cons]
        omega
    rw [hdigits _ fun d hd => Nat.digits_lt_base (by omega) hd, Nat.ofDigits_digits]

/-- A number below `10 ^ k` has at most `k` digits. -/
theorem decimal_length_le {n k : Nat} (hk : 0 < k) (h : n < 10 ^ k) : (decimal n).length ≤ k := by
  unfold decimal
  split
  · exact hk
  · rw [List.length_map, List.length_reverse]
    exact (Nat.digits_length_le_iff (by omega) n).mpr h

/-! ## Directives -/

/-- `isspace` -/
def isSpace (b : UInt8) : Bool := b == 32 || (9 ≤ b && b ≤ 13)

inductive ScanDirective where
  | literal (b : UInt8)
  | space
  /-- `%[^b]` -/
  | notUntil (stop : UInt8)
  /-- `%hu` -/
  | hu
  deriving DecidableEq, Repr

inductive ScanValue where
  | chars (s : CString)
  | number (n : UInt16)
  deriving DecidableEq, Repr

/-- The directives of a format without conversions. -/
def scanFormat (text : Bytes) : List ScanDirective :=
  text.map fun b => if isSpace b then .space else .literal b

/-- `strtoul` on a sign and the digits behind it, stored in 16 bits; `none` when there is no
digit. -/
def scanNumber (input : Bytes) : Option (UInt16 × Bytes) :=
  let negative := input.head? == some 45
  let rest := if input.head? == some 43 || negative then input.drop 1 else input
  let digits := rest.takeWhile isDigit
  if digits = [] then none
  else
    let value := min (ofDecimal digits) (2 ^ 64 - 1)
    let value := if negative && ofDecimal digits < 2 ^ 64 then 2 ^ 64 - value else value
    some (UInt16.ofNat value, rest.dropWhile isDigit)

/-- What is assigned before the first failure, whose directives are not reached. -/
def scan : List ScanDirective → Bytes → List ScanValue
  | [], _ => []
  | .literal b :: fmt, input =>
      match input with
      | [] => []
      | c :: rest => if c = b then scan fmt rest else []
  | .space :: fmt, input => scan fmt (input.dropWhile isSpace)
  | .notUntil stop :: fmt, input =>
      let run := input.takeWhile (· != stop)
      if run = [] then []
      else .chars (.ofBytes run) :: scan fmt (input.dropWhile (· != stop))
  | .hu :: fmt, input =>
      match scanNumber (input.dropWhile isSpace) with
      | none => []
      | some (n, rest) => .number n :: scan fmt rest

/-! ## A text that matches -/

/-- What stands behind a run does not belong to it. -/
theorem takeWhile_run {p : UInt8 → Bool} {run rest : Bytes} (hrun : ∀ b ∈ run, p b = true)
    (hstop : ∀ b, rest.head? = some b → p b = false) :
    (run ++ rest).takeWhile p = run ∧ (run ++ rest).dropWhile p = rest := by
  rw [List.takeWhile_append_of_pos hrun, List.dropWhile_append_of_pos hrun]
  cases rest with
  | nil => simp
  | cons b rest => simp [hstop b rfl]

/-- A text that does not end with white space matches the format made of it. -/
theorem scan_literal {text : Bytes} (input : Bytes) (fmt : List ScanDirective)
    (hlast : ∀ b, text.getLast? = some b → isSpace b = false) :
    scan (scanFormat text ++ fmt) (text ++ input) = scan fmt input := by
  induction text with
  | nil => rfl
  | cons b text ih =>
    cases text with
    | nil =>
      have hb : isSpace b = false := hlast b rfl
      simp only [scanFormat, List.map_cons, List.map_nil, hb, List.cons_append, List.nil_append,
        Bool.false_eq_true, if_false, scan, if_true]
    | cons c text =>
      have hrest := ih fun b' hb' => hlast b' (by rw [List.getLast?_cons_cons]; exact hb')
      cases hb : isSpace b with
      | false =>
        simp only [scanFormat, List.map_cons, hb, List.cons_append, Bool.false_eq_true, if_false,
          scan, if_true] at hrest ⊢
        exact hrest
      | true =>
        -- the white space that follows belongs to this directive and to the next
        rw [← hrest]
        cases hc : isSpace c with
        | false =>
          simp only [scanFormat, List.map_cons, hb, hc, List.cons_append, Bool.false_eq_true,
            if_false, if_true, scan, List.dropWhile_cons]
        | true =>
          simp only [scanFormat, List.map_cons, hb, hc, List.cons_append, if_true, scan,
            List.dropWhile_cons, List.dropWhile_idempotent]

/-- A format without conversions assigns nothing: what follows scans the rest, or is not reached. -/
theorem scan_format_cases (text : Bytes) (fmt : List ScanDirective) (input : Bytes) :
    scan (scanFormat text ++ fmt) input = [] ∨
      ∃ rest, scan (scanFormat text ++ fmt) input = scan fmt rest := by
  induction text generalizing input with
  | nil => exact .inr ⟨input, rfl⟩
  | cons b text ih =>
    rw [scanFormat, List.map_cons, List.cons_append]
    cases isSpace b with
    | true => exact ih (input.dropWhile isSpace)
    | false =>
      cases input with
      | nil => exact .inl rfl
      | cons c rest =>
        by_cases hc : c = b
        · simp only [Bool.false_eq_true, if_false, scan, if_pos hc]
          exact ih rest
        · simp only [Bool.false_eq_true, if_false, scan, if_neg hc]
          exact .inl trivial

theorem CString.ofBytes_bytes (s : CString) : CString.ofBytes s.bytes = s := by
  apply CString.ext_bytes
  refine List.takeWhile_eq_self_iff.mpr fun b hb => ?_
  have hne : b ≠ 0 := fun h => s.noNul (h ▸ hb)
  simpa using hne

/-- A run up to its stop byte. -/
theorem scan_until {run : CString} {stop : UInt8} (rest : Bytes) (fmt : List ScanDirective)
    (hne : run.bytes ≠ []) (hstop : stop ∉ run.bytes) :
    scan (.notUntil stop :: fmt) (run.bytes ++ stop :: rest) =
      .chars run :: scan fmt (stop :: rest) := by
  have hrun : ∀ b ∈ run.bytes, (b != stop) = true := by
    intro b hb
    rw [bne_iff_ne]
    rintro rfl
    exact hstop hb
  have hend : ∀ b, (stop :: rest).head? = some b → (b != stop) = false := by
    rintro b ⟨⟩
    exact bne_self_eq_false stop
  obtain ⟨htake, hdrop⟩ := takeWhile_run hrun hend
  rw [scan, htake, hdrop, if_neg hne, CString.ofBytes_bytes]

/-- A digit is no sign and no white space. -/
theorem isDigit_plain {b : UInt8} (h : isDigit b = true) :
    isSpace b = false ∧ b ≠ 43 ∧ b ≠ 45 := by
  refine ⟨?_, ?_, ?_⟩
  · simp only [isDigit, isSpace, Bool.and_eq_true, decide_eq_true_eq, UInt8.le_iff_toNat_le,
      UInt8.reduceToNat, Bool.or_eq_false_iff, beq_eq_false_iff_ne, Bool.and_eq_false_imp,
      decide_eq_false_iff_not] at h ⊢
    refine ⟨?_, fun _ => by omega⟩
    rintro rfl
    revert h
    decide
  · rintro rfl
    revert h
    decide
  · rintro rfl
    revert h
    decide

/-- **`%hu` reads what `%hu` prints.** -/
theorem scan_hu (n : UInt16) {rest : Bytes} (fmt : List ScanDirective)
    (hrest : ∀ b, rest.head? = some b → isDigit b = false) :
    scan (.hu :: fmt) (decimal n.toNat ++ rest) = .number n :: scan fmt rest := by
  obtain ⟨htake, hdrop⟩ := takeWhile_run (decimal_isDigit n.toNat) hrest
  have hlt := n.toNat_lt
  have hvalue := ofDecimal_decimal n.toNat
  have hne := decimal_ne_nil n.toNat
  have hdigit := decimal_isDigit n.toNat
  generalize decimal n.toNat = digits at htake hdrop hvalue hne hdigit
  cases digits with
  | nil => exact absurd rfl hne
  | cons d ds =>
    obtain ⟨hspace, hplus, hminus⟩ := isDigit_plain (hdigit d List.mem_cons_self)
    have hnumber : scanNumber (d :: ds ++ rest) = some (n, rest) := by
      have hsign : ((d :: ds ++ rest).head? == some 45) = false := by
        simpa [List.head?_cons] using hminus
      have hpositive : ((d :: ds ++ rest).head? == some 43) = false := by
        simpa [List.head?_cons] using hplus
      have hmin : min n.toNat (2 ^ 64 - 1) = n.toNat := by omega
      simp only [scanNumber, hsign, hpositive, Bool.or_false, Bool.false_eq_true, if_false, htake,
        hdrop, if_neg hne, hvalue, Bool.false_and, hmin, UInt16.ofNat_toNat]
    rw [scan, List.cons_append, List.dropWhile_cons_of_neg (by rw [hspace]; exact Bool.false_ne_true),
      ← List.cons_append, hnumber]

end ByteImage
