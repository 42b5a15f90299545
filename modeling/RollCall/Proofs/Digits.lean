import Mathlib.Data.List.Basic
import Mathlib.Data.Nat.Digits.Defs
import RollCall.Message.Identity
import RollCall.Time.Timestamp

set_option autoImplicit false

/-!
Numbers that are written with digits and read back: decimals padded to a width, and the hexadecimal
groups of a step identifier.
-/
namespace RollCall

namespace Timestamp

variable {width n : Nat} {ds : List Char}

theorem digitsValue_eq (ds : List Char) : digitsValue ds = Nat.ofDigitChars 10 ds 0 := by
  simp only [digitsValue, Nat.ofDigitChars, Nat.mul_comm]

theorem isDigit_of_mem_padded {c : Char} (member : c ∈ padded width n) : c.isDigit = true := by
  rcases List.mem_append.1 member with zero | digit
  · rw [List.eq_of_mem_replicate zero]
    rfl
  · exact Nat.isDigit_of_mem_toDigits (by decide) (by decide) digit

theorem padded_ne_nil (width n : Nat) : padded width n ≠ [] := by
  intro nothing
  exact Nat.toDigits_ne_nil (List.append_eq_nil_iff.1 nothing).2

theorem length_padded (pos : 0 < width) (fits : n < 10 ^ width) :
    (padded width n).length = width := by
  have digits := (Nat.length_toDigits_le_iff (b := 10) (by decide) pos).2 fits
  simp only [padded, List.length_append, List.length_replicate]
  omega

/-- Zeros in front do not count. -/
theorem digitsValue_padded (width n : Nat) : digitsValue (padded width n) = n := by
  have zeros (count : Nat) (rest : List Char) :
      digitsValue (List.replicate count '0' ++ rest) = digitsValue rest := by
    induction count with
    | zero => rfl
    | succ count ih => exact ih
  rw [padded, zeros, digitsValue_eq, Nat.ofDigitChars_ten_toDigits]

/-- Digits are taken up to a width or up to what is no digit. -/
theorem takeWhile_take_append (digits : ∀ c ∈ ds, c.isDigit = true) (fits : ds.length ≤ width)
    {rest : List Char} (stops : ds.length = width ∨ ∀ c ∈ rest.head?, c.isDigit = false) :
    ((ds ++ rest).take width).takeWhile Char.isDigit = ds := by
  have left : (rest.take (width - ds.length)).takeWhile Char.isDigit = [] := by
    rcases stops with full | stop
    · rw [full, Nat.sub_self, List.take_zero, List.takeWhile_nil]
    · cases rest with
      | nil => simp
      | cons c rest =>
        have none : c.isDigit = false := stop c rfl
        cases width - ds.length with
        | zero => rfl
        | succ k => simp [none]
  rw [List.take_append, List.take_of_length_le fits, List.takeWhile_append_of_pos digits, left,
    List.append_nil]

theorem number?_append (digits : ∀ c ∈ ds, c.isDigit = true) (some : ds ≠ [])
    (fits : ds.length ≤ width) {rest : List Char}
    (stops : ds.length = width ∨ ∀ c ∈ rest.head?, c.isDigit = false) :
    number? width (ds ++ rest) = .some (digitsValue ds, rest) := by
  simp only [number?, takeWhile_take_append digits fits stops, List.isEmpty_iff, some,
    List.drop_left]
  rfl

theorem number?_padded (pos : 0 < width) (fits : n < 10 ^ width) (rest : List Char) :
    number? width (padded width n ++ rest) = some (n, rest) := by
  have length := length_padded pos fits
  rw [number?_append (fun c => isDigit_of_mem_padded) (padded_ne_nil width n)
    (Nat.le_of_eq length) (Or.inl length), digitsValue_padded]

end Timestamp

namespace Literal

theorem digits?_append (base n : Nat) (cs ds : List Char) :
    digits? base n (cs ++ ds) = (digits? base n cs).bind fun m => digits? base m ds := by
  induction cs generalizing n with
  | nil => rfl
  | cons c cs ih =>
    rw [List.cons_append, digits?, digits?]
    cases digitValue? base c with
    | none => rfl
    | some d => exact ih _

theorem digitValue?_digitChar {d : Nat} (hex : d < 16) :
    digitValue? 16 (Nat.digitChar d) = some d := by
  revert d
  decide

end Literal

namespace StepId

theorem length_hexDigits (count n : Nat) : (hexDigits count n).length = count := by
  induction count generalizing n with
  | zero => rfl
  | succ count ih => rw [hexDigits, List.length_append, ih, List.length_singleton]

/-- The last digits are the later ones after the earlier ones. -/
theorem hexDigits_add (a b n : Nat) :
    hexDigits (a + b) n = hexDigits a (n / 16 ^ b) ++ hexDigits b n := by
  induction b generalizing n with
  | zero => simp [hexDigits]
  | succ b ih =>
    rw [← Nat.add_assoc, hexDigits, ih, hexDigits, List.append_assoc, Nat.div_div_eq_div_mul,
      Nat.pow_succ']

theorem digits?_hexDigits (count m n : Nat) :
    Literal.digits? 16 m (hexDigits count n) = some (m * 16 ^ count + n % 16 ^ count) := by
  induction count generalizing n with
  | zero => simp [hexDigits, Literal.digits?, Nat.mod_one]
  | succ count ih =>
    have digit := Literal.digitValue?_digitChar (Nat.mod_lt n (show 0 < 16 by decide))
    rw [hexDigits, Literal.digits?_append, ih]
    simp only [Option.bind_some, Literal.digits?, digit, Option.some.injEq]
    rw [Nat.pow_succ', Nat.mod_mul]
    ring

/-- The five groups of a written identifier. -/
theorem ungroup?_groups {a b c d e : List Char} (ha : a.length = 8) (hb : b.length = 4)
    (hc : c.length = 4) (hd : d.length = 4) (he : e.length = 12) :
    ungroup? (a ++ '-' :: b ++ '-' :: c ++ '-' :: d ++ '-' :: e) =
      some (a ++ b ++ c ++ d ++ e) := by
  simp [ungroup?, List.drop_append, List.getElem?_append, ha, hb, hc, hd, he,
    List.drop_of_length_le]

theorem parse?_text (s : StepId) : parse? s.text = some s := by
  have grouped : digits? s.print = some (hexDigits 32 s.bits.toNat) := by
    have length : s.print.length = 36 := by simp [print, length_hexDigits]
    have digits : hexDigits 32 s.bits.toNat =
        hexDigits 8 (s.bits.toNat / twoTo 96) ++ hexDigits 4 (s.bits.toNat / twoTo 80) ++
          hexDigits 4 (s.bits.toNat / twoTo 64) ++ hexDigits 4 (s.bits.toNat / twoTo 48) ++
          hexDigits 12 s.bits.toNat := by
      rw [hexDigits_add 20 12, hexDigits_add 16 4, hexDigits_add 12 4, hexDigits_add 8 4]
      simp only [Nat.div_div_eq_div_mul]
      rfl
    rw [digits?, if_neg (by omega), if_neg (by omega), if_neg (by omega), digits]
    exact ungroup?_groups (length_hexDigits _ _) (length_hexDigits _ _) (length_hexDigits _ _)
      (length_hexDigits _ _) (length_hexDigits _ _)
  have small : s.bits.toNat < 16 ^ 32 := s.bits.isLt
  rw [parse?, text, String.toList_ofList, grouped, Option.bind_some, digits?_hexDigits,
    Nat.mod_eq_of_lt small, Nat.zero_mul, Nat.zero_add, Option.map_some, BitVec.ofNat_toNat,
    BitVec.setWidth_eq]

end StepId

end RollCall
