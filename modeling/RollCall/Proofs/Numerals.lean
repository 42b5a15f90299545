import Mathlib.Data.List.TakeWhile
import RollCall.Proofs.Digits
import RollCall.Settings.Environment

set_option autoImplicit false

/-!
Numbers of 64 bits, written as decimals and taken for what they look like. Below half of the range
they are read as whole numbers; above it they look too large for that and are rounded to doubles.
-/
namespace RollCall

namespace Literal

theorem digitValue?_of_isDigit {c : Char} (digit : c.isDigit = true) :
    digitValue? 10 c = some (c.toNat - '0'.toNat) := by
  have bounds : '0' ≤ c ∧ c ≤ '9' := by
    simpa [Char.isDigit, Char.le_def] using digit
  have small : c.toNat - '0'.toNat < 10 := by
    have last : c.toNat ≤ '9'.toNat := bounds.2
    have nine : '9'.toNat = 57 := rfl
    have zero : '0'.toNat = 48 := rfl
    omega
  simp only [digitValue?, if_pos bounds, Option.filter_some, decide_eq_true small, if_true]

theorem digits?_of_isDigit {cs : List Char} (digits : ∀ c ∈ cs, c.isDigit = true) (n : Nat) :
    digits? 10 n cs = some (Nat.ofDigitChars 10 cs n) := by
  induction cs generalizing n with
  | nil => rfl
  | cons c cs ih =>
    rw [digits?, digitValue?_of_isDigit (digits c List.mem_cons_self)]
    dsimp only
    rw [ih fun d member => digits d (List.mem_cons_of_mem _ member), Nat.mul_comm n]
    rfl

theorem isDigit_toDigits (n : Nat) : ∀ c ∈ Nat.toDigits 10 n, c.isDigit = true :=
  fun _ => Nat.isDigit_of_mem_toDigits (by decide) (by decide)

/-- A decimal begins with a digit. -/
theorem exists_toDigits (n : Nat) :
    ∃ c cs, Nat.toDigits 10 n = c :: cs ∧ c.isDigit = true := by
  obtain ⟨c, cs, split⟩ := List.exists_cons_of_ne_nil (Nat.toDigits_ne_nil (n := n) (b := 10))
  exact ⟨c, cs, split, isDigit_toDigits n c (by rw [split]; exact List.mem_cons_self)⟩

theorem natural?_toDigits (n : Nat) : natural? 10 (Nat.toDigits 10 n) = some n := by
  obtain ⟨c, cs, split, -⟩ := exists_toDigits n
  have read := digits?_of_isDigit (isDigit_toDigits n) 0
  rw [Nat.ofDigitChars_ten_toDigits, split] at read
  rw [split, natural?.eq_2]
  · exact read
  · simp

theorem integer?_toDigits (n : Nat) : integer? 10 (Nat.toDigits 10 n) = some (n : Int) := by
  obtain ⟨c, cs, split, digit⟩ := exists_toDigits n
  have natural := natural?_toDigits n
  unfold integer?
  split
  · rename_i signed
    rw [split] at signed
    cases signed
    cases digit
  · rename_i signed
    rw [split] at signed
    cases signed
    cases digit
  · rw [natural]
    rfl

theorem int64?_toDigits (n : Nat) : int64? 10 (Nat.toDigits 10 n) =
    if n < 9223372036854775808 then some (n : Int) else none := by
  rw [int64?, integer?_toDigits, Option.filter_some]
  have range : Width.isInt64 n = true ↔ n < 9223372036854775808 := by
    simp only [Width.isInt64, Bool.and_eq_true, decide_eq_true_eq]
    omega
  by_cases small : n < 9223372036854775808
  · rw [if_pos (range.2 small), if_pos small]
  · rw [if_neg fun fits => small (range.1 fits), if_neg small]

theorem decimalParts?_toDigits (n : Nat) : decimalParts? (Nat.toDigits 10 n) = some (n, 0) := by
  have whole : (Nat.toDigits 10 n).takeWhile Char.isDigit = Nat.toDigits 10 n :=
    List.takeWhile_eq_self_iff.2 (isDigit_toDigits n)
  have rest : (Nat.toDigits 10 n).dropWhile Char.isDigit = [] :=
    List.dropWhile_eq_nil_iff.2 (isDigit_toDigits n)
  simp only [decimalParts?, whole, rest, List.append_nil, natural?_toDigits]
  rfl

theorem toLower_of_isDigit {c : Char} (digit : c.isDigit = true) : c.toLower = c := by
  have last : c.val ≤ 57 := by
    simp only [Char.isDigit, Bool.and_eq_true, decide_eq_true_eq] at digit
    exact digit.2
  unfold Char.toLower
  rw [dif_neg fun upper => ?_]
  have above : (65 : UInt32) ≤ c.val := upper.1
  exact absurd (UInt32.le_trans above last) (by decide)

/-- What begins with a digit is no word, in whatever case. -/
theorem lower_ne_word {cs : List Char} (begins : cs.head?.any Char.isDigit = true) {word : String}
    (letter : word.toList.head?.any Char.isDigit = false) :
    String.ofList (cs.map Char.toLower) ≠ word := by
  obtain ⟨c, first, digit⟩ := (Option.any_eq_true _ _).1 begins
  intro same
  have head : word.toList.head? = some c := by
    rw [← same, String.toList_ofList, List.head?_map, first, Option.map_some,
      toLower_of_isDigit digit]
  rw [head, Option.any_some, digit] at letter
  cases letter

theorem head?_toDigits (n : Nat) : (Nat.toDigits 10 n).head?.any Char.isDigit = true := by
  obtain ⟨c, cs, split, digit⟩ := exists_toDigits n
  rw [split, List.head?_cons, Option.any_some, digit]

theorem real?_toDigits (n : Nat) : real? (Nat.toDigits 10 n) =
    some (match Double.ofDecimal? false n 0 with
      | some x => .finite x
      | none => .infinite false) := by
  obtain ⟨c, cs, split, digit⟩ := exists_toDigits n
  have unsigned : c ≠ '-' ∧ c ≠ '+' :=
    ⟨ne_of_apply_ne Char.isDigit (by rw [digit]; decide),
      ne_of_apply_ne Char.isDigit (by rw [digit]; decide)⟩
  have parts := decimalParts?_toDigits n
  have word : ∀ word ∈ ["inf", "infinity", "nan"],
      String.ofList ((Nat.toDigits 10 n).map Char.toLower) ≠ word := by
    intro word listed
    apply lower_ne_word (head?_toDigits n)
    revert word
    decide
  rw [split] at parts word ⊢
  have finite := word "inf" (by decide)
  have bounded := word "infinity" (by decide)
  have number := word "nan" (by decide)
  unfold real?
  split
  rename_i negative rest signed
  have plain : negative = false ∧ rest = c :: cs := by
    split at signed
    · rename_i minus
      cases minus
      exact absurd rfl unsigned.1
    · rename_i plus
      cases plus
      exact absurd rfl unsigned.2
    · cases signed
      exact ⟨rfl, rfl⟩
  rw [plain.1, plain.2]
  simp only [finite, bounded, number, or_self, if_false, parts]
  rfl

end Literal

namespace Double

variable {n : Nat}

theorem overPower_eleven (n : Nat) : overPower n 1 11 = (n, 2048) := rfl

theorem gridExponent_of_large (large : 9223372036854775808 ≤ n) (word : n < Width.words64) :
    gridExponent n 1 = 11 := by
  have log : n.log2 = 63 := by
    rw [Nat.log2_eq_iff (by omega)]
    exact ⟨large, word⟩
  have guess : ((63 : Nat) : Int) - ((Nat.log2 1 : Nat) : Int) - 52 = 11 := by decide
  have full : ¬ n / 2048 < leastSignificand := by
    rw [leastSignificand]
    omega
  simp only [gridExponent, log, guess, overPower_eleven, if_neg full]
  rfl

/-- A number of 64 bits that has all of them is rounded to a multiple of `2 ^ 11`. -/
theorem ofRatio?_of_large (large : 9223372036854775808 ≤ n) (word : n < Width.words64) :
    ∃ x, ofRatio? false n 1 = some x ∧ x.negative = false ∧
      x.ratio = (2048 * roundDiv n 2048, 1) := by
  have nonzero : ¬ n = 0 := by omega
  simp only [ofRatio?, if_neg nonzero, gridExponent_of_large large word, overPower_eleven]
  -- Rounded up to 54 bits, the number has the least significand at the next exponent.
  by_cases carry : roundDiv n 2048 = 2 * leastSignificand
  · refine ⟨⟨false, leastSignificand, 12⟩, ?_, rfl, ?_⟩
    · simp only [carry, if_true]
      rfl
    · rw [carry]
      rfl
  · refine ⟨⟨false, roundDiv n 2048, 11⟩, ?_, rfl, ?_⟩
    · simp only [carry, if_false]
      rfl
    · rw [Nat.mul_comm]
      rfl

theorem ofDecimal?_of_whole (nonzero : n ≠ 0) (negative : Bool) :
    ofDecimal? negative n 0 = ofRatio? negative n 1 := by
  have short : ¬ (0 : Int) + decimalLength n < -400 := by omega
  have one : n * tenTo (Int.toNat 0) = n := Nat.mul_one n
  simp only [ofDecimal?, if_neg nonzero, if_neg short, one]
  rfl

end Double

namespace SettingValue

theorem realWord_of_whole {x : Double} {n : Nat} (positive : x.negative = false)
    (whole : x.ratio = (n, 1)) :
    realWord (.finite x) = UInt64.ofNat (min n (Width.words64 - 1)) := by
  have rounded : (2 * n + 1) / (2 * 1) = n := by omega
  simp only [realWord, positive, whole, rounded]
  rfl

end SettingValue

namespace Environment

/--
The number that is read where a variable has the decimal of a number: a number of all 64 bits is
taken for a double, which has 53 of them.
-/
def reread (n : UInt64) : UInt64 :=
  if n.toNat < 9223372036854775808 then n
  else UInt64.ofNat (min (2048 * Double.roundDiv n.toNat 2048) (Width.words64 - 1))

theorem value_toString (n : UInt64) : value (toString n) =
    if n.toNat < 9223372036854775808 then .int n.toNat
    else .real (match Double.ofDecimal? false n.toNat 0 with
      | some x => .finite x
      | none => .infinite false) := by
  have digits : (toString n).toList = Nat.toDigits 10 n.toNat := String.toList_ofList
  have lower : (toString n).toLower = (toString n).map Char.toLower := rfl
  have word : ∀ word ∈ ["true", "false"], (toString n).toLower ≠ word := by
    intro word listed
    rw [lower, String.map_eq_internal, digits]
    apply Literal.lower_ne_word (Literal.head?_toDigits n.toNat)
    revert word
    decide
  have yes := word "true" (by decide)
  have no := word "false" (by decide)
  simp only [value, yes, no, if_false, digits, Literal.int64?_toDigits, Literal.real?_toDigits]
  by_cases small : n.toNat < 9223372036854775808
  · simp only [if_pos small]
  · simp only [if_neg small]

theorem toWord?_value_toString (n : UInt64) :
    (value (toString n)).toWord? = some (reread n) := by
  rw [value_toString, reread]
  split
  · rename_i small
    have word : Width.isWord64 n.toNat = true := Width.isWord64_natCast.2 n.toNat_lt
    simp only [SettingValue.toWord?, word, if_true, Int.toNat_natCast, UInt64.ofNat_toNat]
  · rename_i large
    obtain ⟨x, rounded, positive, whole⟩ :=
      Double.ofRatio?_of_large (Nat.le_of_not_lt large) n.toNat_lt
    have nonzero : n.toNat ≠ 0 := by omega
    rw [Double.ofDecimal?_of_whole nonzero, rounded]
    exact congrArg some (SettingValue.realWord_of_whole positive whole)

/--
A number survives when it is below the half of the range, or a double, or the greatest of all, to
which what is too large is brought down.
-/
theorem reread_eq_self_iff (n : UInt64) : reread n = n ↔
    n.toNat < 9223372036854775808 ∨ n.toNat % 2048 = 0 ∨ n.toNat = Width.words64 - 1 := by
  unfold reread
  split
  · rename_i small
    simp [small]
  · rename_i large
    have word : n.toNat < 18446744073709551616 := n.toNat_lt
    rw [← UInt64.toNat_inj, UInt64.toNat_ofNat']
    simp only [Double.roundDiv, Width.words64]
    split <;> omega

theorem reread_ne_zero {n : UInt64} (nonzero : n ≠ 0) : reread n ≠ 0 := by
  unfold reread
  split
  · exact nonzero
  · rename_i large
    have word : n.toNat < 18446744073709551616 := n.toNat_lt
    rw [Ne, ← UInt64.toNat_inj, UInt64.toNat_ofNat']
    simp only [Double.roundDiv, Width.words64, UInt64.toNat_zero]
    split <;> omega

end Environment

end RollCall
