import RollCall.Number.Literal
import RollCall.Text.Blank

set_option autoImplicit false

/-!
Names of participants and requests, which are free text, and identifiers of trace steps, which are
128-bit numbers written in five groups of hexadecimal digits.
-/
namespace RollCall

/-- The stable name of one remote participant. -/
structure RecipientId where
  text : String
deriving DecidableEq, Repr, Hashable

/-- The name of one logical request, shared by every step that it leaves. -/
structure RequestId where
  text : String
deriving DecidableEq, Repr, Hashable

/-- The identifier of one step of a trace. -/
structure StepId where
  bits : BitVec 128
deriving DecidableEq, Repr

namespace RecipientId

def isBlank (r : RecipientId) : Bool := Text.isBlank r.text

/-- Recipients are ordered by the code points of their names. -/
def comesBefore (a b : RecipientId) : Bool := a.text < b.text

end RecipientId

namespace RequestId

def isBlank (r : RequestId) : Bool := Text.isBlank r.text

end RequestId

namespace StepId

def hexDigits : Nat → Nat → List Char
  | 0, _ => []
  | count + 1, n => hexDigits count (n / 16) ++ [Nat.digitChar (n % 16)]

/-- Thirty-two digits in groups of 8, 4, 4, 4 and 12, with hyphens between them. -/
def print (s : StepId) : List Char :=
  let n := s.bits.toNat
  hexDigits 8 (n / twoTo 96) ++ '-' :: hexDigits 4 (n / twoTo 80) ++
    '-' :: hexDigits 4 (n / twoTo 64) ++ '-' :: hexDigits 4 (n / twoTo 48) ++
    '-' :: hexDigits 12 n

def text (s : StepId) : String := String.ofList s.print

/-- The digits of five hyphenated groups. -/
def ungroup? (cs : List Char) : Option (List Char) :=
  let group (start : Nat) : Option Char := cs[start]?
  if cs.length = 36 ∧ [8, 13, 18, 23].all (fun i => group i == some '-') then
    some (cs.take 8 ++ (cs.drop 9).take 4 ++ (cs.drop 14).take 4 ++ (cs.drop 19).take 4 ++
      cs.drop 24)
  else none

/-- The digits of a written identifier: plain, in groups, in groups within braces, or as a name. -/
def digits? (cs : List Char) : Option (List Char) :=
  if cs.length = 32 then some cs
  else if cs.length = 38 ∧ cs.head? = some '\x7b' ∧ cs.getLast? = some '\x7d' then
    ungroup? ((cs.drop 1).take 36)
  else if cs.length = 45 ∧ cs.take 9 = "urn:uuid:".toList then ungroup? (cs.drop 9)
  else ungroup? cs

def parse? (s : String) : Option StepId :=
  (digits? s.toList).bind fun ds => (Literal.digits? 16 0 ds).map fun n => ⟨BitVec.ofNat 128 n⟩

end StepId

end RollCall
