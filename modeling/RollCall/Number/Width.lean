set_option autoImplicit false

/-!
Whole numbers that fit into so many bits, with a sign or without, and the powers of two and ten.
-/
namespace RollCall

def twoTo (k : Nat) : Nat := Nat.pow 2 k

def tenTo (k : Nat) : Nat := Nat.pow 10 k

namespace Width

/-- How many numbers of 64 bits there are. -/
def words64 : Nat := 18446744073709551616

def isWord64 (i : Int) : Bool := 0 ≤ i && i < 18446744073709551616

def isInt64 (i : Int) : Bool := -9223372036854775808 ≤ i && i < 9223372036854775808

def isWord128 (i : Int) : Bool := 0 ≤ i && i < 340282366920938463463374607431768211456

def isInt128 (i : Int) : Bool :=
  -170141183460469231731687303715884105728 ≤ i && i < 170141183460469231731687303715884105728

theorem isWord64_natCast {n : Nat} : isWord64 n = true ↔ n < words64 := by
  simp only [isWord64, words64, Bool.and_eq_true, decide_eq_true_eq]
  omega

end Width

end RollCall
