set_option autoImplicit false

/-!
The byte order mark, which may stand at the beginning of a text and is not part of it.
-/
namespace RollCall.Text

def isMark (c : Char) : Bool := c.toNat == 0xFEFF

/-- A text without the mark at its beginning, if there is one. -/
def withoutMark : List Char → List Char
  | [] => []
  | c :: rest => if isMark c then rest else c :: rest

end RollCall.Text
