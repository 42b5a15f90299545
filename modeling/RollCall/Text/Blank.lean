set_option autoImplicit false

/-!
Blank text. A text is blank when every character of it has the Unicode property `White_Space`;
identifiers, payloads, labels and plan names that are blank count as missing.
-/
namespace RollCall.Text

/-- The 25 characters with the Unicode property `White_Space`. -/
def isSpace (c : Char) : Bool :=
  let n := c.toNat
  (9 ≤ n && n ≤ 13) || n == 0x20 || n == 0x85 || n == 0xA0 || n == 0x1680 ||
    (0x2000 ≤ n && n ≤ 0x200A) || n == 0x2028 || n == 0x2029 || n == 0x202F ||
    n == 0x205F || n == 0x3000

/-- The text with the spaces at both of its ends taken off. -/
def trimChars (cs : List Char) : List Char :=
  ((cs.dropWhile isSpace).reverse.dropWhile isSpace).reverse

def trim (s : String) : String :=
  String.ofList (trimChars s.toList)

def isBlank (s : String) : Bool :=
  s.toList.all isSpace

theorem isBlank_iff {s : String} : isBlank s ↔ ∀ c ∈ s.toList, isSpace c := by
  simp [isBlank]

@[simp] theorem isBlank_empty : isBlank "" = true := rfl

end RollCall.Text
