import RollCall.Toml.Scalar

set_option autoImplicit false

/-!
TOML text: strings in single or double quotes, over one line or several, and keys.
-/
namespace RollCall.Toml

/-- Blanks and tabs. -/
def isBlank (c : Char) : Bool := c == ' ' || c == '\t'

def skipBlanks (cs : List Char) : List Char := cs.dropWhile isBlank

/-- The characters that may stand in comments and strings as they are, breaks aside. -/
def isPrintable (c : Char) : Bool := c == '\t' || (0x20 ≤ c.toNat && c.toNat != 0x7F)

/-- A break at the beginning of a text. -/
def takeBreak? : List Char → Option (List Char)
  | '\n' :: r => some r
  | '\r' :: '\n' :: r => some r
  | _ => none

/-- The character of an escape without digits. -/
def escape? (c : Char) : Option Char :=
  match c with
  | 'b' => some (Char.ofNat 8)
  | 't' => some '\t'
  | 'n' => some '\n'
  | 'f' => some (Char.ofNat 12)
  | 'r' => some '\r'
  | '"' => some '"'
  | '\\' => some '\\'
  | _ => none

/-- The character whose number is written in some digits, with what is behind it. -/
def numbered? (digits : Nat) (cs : List Char) : Option (Char × List Char) :=
  let ds := cs.take digits
  if ds.length = digits then
    ((Literal.natural? 16 ds).filter Nat.isValidChar).map fun n => (Char.ofNat n, cs.drop digits)
  else none

/-- What stands behind a backslash, with what is behind it. -/
def escaped? : List Char → Option (Char × List Char)
  | 'u' :: r => numbered? 4 r
  | 'U' :: r => numbered? 8 r
  | c :: r => (escape? c).map fun x => (x, r)
  | [] => none

/-- A string over one line, behind its opening quote. -/
def line? (quote : Char) : Nat → List Char → Option (List Char × List Char)
  | 0, _ => none
  | _ + 1, [] => none
  | fuel + 1, c :: rest =>
    if c == quote then some ([], rest)
    else if quote == '"' && c == '\\' then
      match escaped? rest with
      | some (x, rest) => (line? quote fuel rest).map fun r => (x :: r.1, r.2)
      | none => none
    else if isPrintable c then (line? quote fuel rest).map fun r => (c :: r.1, r.2)
    else none

/-- Goes past blanks and breaks. -/
def skipLines : Nat → List Char → List Char
  | 0, cs => cs
  | fuel + 1, cs =>
    match takeBreak? (skipBlanks cs) with
    | some rest => skipLines fuel rest
    | none => skipBlanks cs

/-- Blanks and breaks behind a backslash at the end of a line. -/
def joinedLines? (cs : List Char) : Option (List Char) :=
  (takeBreak? (skipBlanks cs)).map fun rest => skipLines (rest.length + 1) rest

/-- A string over several lines, behind its opening quotes; two quotes at most stand before its
end. -/
def lines? (quote : Char) : Nat → List Char → Option (List Char × List Char)
  | 0, _ => none
  | _ + 1, [] => none
  | fuel + 1, c :: rest =>
    if c == quote then
      let count := ((c :: rest).takeWhile (· == quote)).length
      let rest := (c :: rest).dropWhile (· == quote)
      if count < 3 then
        (lines? quote fuel rest).map fun r => (List.replicate count quote ++ r.1, r.2)
      else if count < 6 then some (List.replicate (count - 3) quote, rest)
      else none
    else if quote == '"' && c == '\\' then
      match joinedLines? rest with
      | some rest => lines? quote fuel rest
      | none =>
        match escaped? rest with
        | some (x, rest) => (lines? quote fuel rest).map fun r => (x :: r.1, r.2)
        | none => none
    else
      match takeBreak? (c :: rest) with
      | some rest => (lines? quote fuel rest).map fun r => ('\n' :: r.1, r.2)
      | none =>
        if isPrintable c then (lines? quote fuel rest).map fun r => (c :: r.1, r.2) else none

/-- A string of any kind; a break directly behind three quotes does not count. -/
def string? (cs : List Char) : Option (List Char × List Char) :=
  let behind (quote : Char) (r : List Char) : Option (List Char × List Char) :=
    lines? quote (r.length + 1) ((takeBreak? r).getD r)
  match cs with
  | '"' :: '"' :: '"' :: r => behind '"' r
  | '\'' :: '\'' :: '\'' :: r => behind '\'' r
  | '"' :: r => line? '"' (r.length + 1) r
  | '\'' :: r => line? '\'' (r.length + 1) r
  | _ => none

def isKeyChar (c : Char) : Bool := c.isAlphanum || c == '_' || c == '-'

/-- A part of a key: bare, or in quotes over one line. -/
def keyPart? (cs : List Char) : Option (String × List Char) :=
  match cs with
  | '"' :: r => (line? '"' (r.length + 1) r).map fun p => (String.ofList p.1, p.2)
  | '\'' :: r => (line? '\'' (r.length + 1) r).map fun p => (String.ofList p.1, p.2)
  | r =>
    let part := r.takeWhile isKeyChar
    if part.isEmpty then none else some (String.ofList part, r.dropWhile isKeyChar)

/-- A key of parts with points between them, and blanks around each. -/
def key? : Nat → List Char → Option (List String × List Char)
  | 0, _ => none
  | fuel + 1, cs =>
    match keyPart? (skipBlanks cs) with
    | none => none
    | some (part, rest) =>
      match skipBlanks rest with
      | '.' :: rest => (key? fuel rest).map fun p => (part :: p.1, p.2)
      | rest => some ([part], rest)

end RollCall.Toml
