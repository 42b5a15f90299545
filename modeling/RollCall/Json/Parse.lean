import RollCall.Json.Basic
import RollCall.Number.Literal

set_option autoImplicit false

/-!
Reading JSON text. `parse?` keeps the fields of an object as they are written, repeated keys
included; `read?` gives the canonical value.
-/
namespace RollCall.Json

/-- The four characters that JSON allows between tokens. -/
def isGap (c : Char) : Bool := c == ' ' || c == '\n' || c == '\t' || c == '\r'

def skipGap (cs : List Char) : List Char := cs.dropWhile isGap

def digitValue (c : Char) : Nat := c.toNat - '0'.toNat

/-- The greatest significand and the greatest whole number. -/
def greatestWhole : Nat := Width.words64 - 1

/-- Appends digits to a significand while it fits; gives it with the number of digits left out. -/
def absorb (significand : Nat) : List Char → Nat × Nat
  | [] => (significand, 0)
  | c :: cs =>
    let s := significand * 10 + digitValue c
    if s ≤ greatestWhole then absorb s cs else (significand, cs.length + 1)

def exponent? (cs : List Char) : Option (Int × List Char) :=
  let (negative, cs) :=
    match cs with
    | '-' :: r => (true, r)
    | '+' :: r => (false, r)
    | r => (false, r)
  let ds := cs.takeWhile Char.isDigit
  let n : Int := (ds.foldl (fun n c => n * 10 + digitValue c) 0 : Nat)
  if ds.isEmpty then none else some (if negative then -n else n, cs.dropWhile Char.isDigit)

/-- A number without fraction and exponent: whole when it fits, negative zero being a double. -/
def whole? (negative : Bool) (significand leftOut : Nat) : Option Json :=
  if leftOut ≠ 0 then (Double.ofScaled? negative significand leftOut).map .double
  else if !negative then some (.int significand)
  else if significand ≠ 0 ∧ Width.isInt64 (-significand) then some (.int (-significand))
  else (Double.ofRatio? true significand 1).map .double

/-- A number whose sign has been read. -/
def unsigned? (negative : Bool) (cs : List Char) : Option (Json × List Char) := do
  let ints := cs.takeWhile Char.isDigit
  let cs := cs.dropWhile Char.isDigit
  if ints.isEmpty || (ints.length > 1 && ints.head? == some '0') then none
  let (significand, leftOut) := absorb 0 ints
  let (significand, power, cs, isWhole) ← show Option (Nat × Int × List Char × Bool) from
    match cs with
    | '.' :: r =>
      let fracs := r.takeWhile Char.isDigit
      let (s, out) := absorb significand fracs
      if fracs.isEmpty then none
      else some (s, (leftOut : Int) - (fracs.length - out : Nat), r.dropWhile Char.isDigit, false)
    | r => some (significand, (leftOut : Int), r, true)
  match cs with
  | 'e' :: r | 'E' :: r =>
    let (e, r) ← exponent? r
    let x ← Double.ofScaled? negative significand (power + e)
    return (.double x, r)
  | r =>
    if isWhole then
      let v ← whole? negative significand leftOut
      return (v, r)
    else
      let x ← Double.ofScaled? negative significand power
      return (.double x, r)

def number? : List Char → Option (Json × List Char)
  | '-' :: r => unsigned? true r
  | r => unsigned? false r

def hex4? (a b c d : Char) : Option Nat :=
  Literal.natural? 16 [a, b, c, d]

def simpleEscape? (c : Char) : Option Char :=
  match c with
  | '"' => some '"'
  | '\\' => some '\\'
  | '/' => some '/'
  | 'b' => some (Char.ofNat 8)
  | 'f' => some (Char.ofNat 12)
  | 'n' => some '\n'
  | 'r' => some '\r'
  | 't' => some '\t'
  | _ => none

/-- Puts a character in front of a string that has been read. -/
def consChar (c : Char) (r : Option (List Char × List Char)) : Option (List Char × List Char) :=
  r.map fun p => (c :: p.1, p.2)

/-- The characters of a string up to its closing quote, with the rest of the text. -/
def stringBody? : List Char → Option (List Char × List Char)
  | [] => none
  | '"' :: rest => some ([], rest)
  | '\\' :: 'u' :: a :: b :: c :: d :: rest =>
    match hex4? a b c d with
    | none => none
    | some n =>
      if 0xDC00 ≤ n ∧ n ≤ 0xDFFF then none
      else if 0xD800 ≤ n ∧ n ≤ 0xDBFF then
        match rest with
        | '\\' :: 'u' :: e :: f :: g :: h :: rest =>
          match hex4? e f g h with
          | none => none
          | some m =>
            if 0xDC00 ≤ m ∧ m ≤ 0xDFFF then
              let code := 0x10000 + (n - 0xD800) * 0x400 + (m - 0xDC00)
              consChar (Char.ofNat code) (stringBody? rest)
            else none
        | _ => none
      else consChar (Char.ofNat n) (stringBody? rest)
  | '\\' :: c :: rest =>
    match simpleEscape? c with
    | none => none
    | some c => consChar c (stringBody? rest)
  | c :: rest => if c.toNat < 0x20 ∨ c = '\\' then none else consChar c (stringBody? rest)

/-- The deepest nesting of arrays and objects that is read. -/
def greatestDepth : Nat := 127

mutual

/-- One value; `depth` levels of nesting are still allowed. -/
def value? : Nat → Nat → List Char → Option (Json × List Char)
  | 0, _, _ => none
  | fuel + 1, depth, cs =>
    match skipGap cs with
    | 'n' :: 'u' :: 'l' :: 'l' :: r => some (.null, r)
    | 't' :: 'r' :: 'u' :: 'e' :: r => some (.bool true, r)
    | 'f' :: 'a' :: 'l' :: 's' :: 'e' :: r => some (.bool false, r)
    | '"' :: r => (stringBody? r).map fun p => (.string (String.ofList p.1), p.2)
    | '[' :: r =>
      match depth with
      | 0 => none
      | depth + 1 =>
        match skipGap r with
        | ']' :: r => some (.array [], r)
        | r => (items? fuel depth r).map fun p => (.array p.1, p.2)
    | '{' :: r =>
      match depth with
      | 0 => none
      | depth + 1 =>
        match skipGap r with
        | '}' :: r => some (.object [], r)
        | r => (fields? fuel depth r).map fun p => (.object p.1, p.2)
    | r => number? r

/-- One item or more, up to the closing bracket. -/
def items? : Nat → Nat → List Char → Option (List Json × List Char)
  | 0, _, _ => none
  | fuel + 1, depth, cs =>
    match value? fuel depth cs with
    | none => none
    | some (v, r) =>
      match skipGap r with
      | ',' :: r => (items? fuel depth r).map fun p => (v :: p.1, p.2)
      | ']' :: r => some ([v], r)
      | _ => none

/-- One field or more, up to the closing brace. -/
def fields? : Nat → Nat → List Char → Option (List (String × Json) × List Char)
  | 0, _, _ => none
  | fuel + 1, depth, cs =>
    match skipGap cs with
    | '"' :: r =>
      match stringBody? r with
      | none => none
      | some (k, r) =>
        match skipGap r with
        | ':' :: r =>
          match value? fuel depth r with
          | none => none
          | some (v, r) =>
            match skipGap r with
            | ',' :: r => (fields? fuel depth r).map fun p => ((String.ofList k, v) :: p.1, p.2)
            | '}' :: r => some ([(String.ofList k, v)], r)
            | _ => none
        | _ => none
    | _ => none

end

/--
The value that a text holds, its fields as written. Every call takes at least one character before
it calls the same function again, so three steps a character are enough.
-/
def parse? (s : String) : Option Json :=
  let cs := s.toList
  match value? (3 * cs.length + 3) greatestDepth cs with
  | some (v, r) => if (skipGap r).isEmpty then some v else none
  | none => none

def read? (s : String) : Option Json := (parse? s).map canonical

end RollCall.Json
