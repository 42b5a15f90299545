import RollCall.Text.Mark
import RollCall.Toml.Text

set_option autoImplicit false

/-!
Reading a TOML text as its root table.
-/
namespace RollCall.Toml

/-- Goes past a comment to the end of its line; none when it holds a control character. -/
def skipComment? (cs : List Char) : Option (List Char) :=
  match cs with
  | '#' :: r =>
    let rest := r.dropWhile isPrintable
    if rest.isEmpty || (takeBreak? rest).isSome then some rest else none
  | r => some r

/-- Goes past blanks, comments and breaks. -/
def skipGap? : Nat → List Char → Option (List Char)
  | 0, _ => none
  | fuel + 1, cs =>
    match skipComment? (skipBlanks cs) with
    | none => none
    | some rest =>
      match takeBreak? rest with
      | some rest => skipGap? fuel rest
      | none => some rest

/-- Goes past all that may stand between values in brackets. -/
def gap? (cs : List Char) : Option (List Char) := skipGap? (cs.length + 1) cs

/-- A word; a day may lead on to a time behind a blank. -/
def wordValue? (cs : List Char) : Option (Value × List Char) :=
  let word := cs.takeWhile isWordChar
  let rest := cs.dropWhile isWordChar
  let (word, rest) :=
    match isDay word, rest with
    | true, ' ' :: r =>
      if r.head?.any Char.isDigit then
        (word ++ ' ' :: r.takeWhile isWordChar, r.dropWhile isWordChar)
      else (word, rest)
    | _, _ => (word, rest)
  (word? word).map fun v => (v, rest)

mutual

/-- A value. Of two calls, one inside the other, at least one takes a character. -/
def value? : Nat → List Char → Option (Value × List Char)
  | 0, _ => none
  | fuel + 1, cs =>
    match cs with
    | '"' :: _ | '\'' :: _ => (string? cs).map fun p => (.string (String.ofList p.1), p.2)
    | '[' :: r => (items? fuel r).map fun p => (.array p.1, p.2)
    | '\x7b' :: r =>
      match skipBlanks r with
      | '\x7d' :: r => some (.table .braces [], r)
      | r => (fields? fuel [] r).map fun p => (.table .braces p.1, p.2)
    | _ => wordValue? cs

/-- The items of a list; a comma may stand behind the last. -/
def items? : Nat → List Char → Option (List Value × List Char)
  | 0, _ => none
  | fuel + 1, cs =>
    match gap? cs with
    | none => none
    | some (']' :: r) => some ([], r)
    | some r =>
      match value? fuel r with
      | none => none
      | some (v, r) =>
        match gap? r with
        | some (']' :: r) => some ([v], r)
        | some (',' :: r) => (items? fuel r).map fun p => (v :: p.1, p.2)
        | _ => none

/-- A key and a value with an equals sign between them. -/
def field? : Nat → List Char → Option (List String × Value × List Char)
  | 0, _ => none
  | fuel + 1, cs =>
    match key? (cs.length + 1) cs with
    | some (key, '=' :: r) => (value? fuel (skipBlanks r)).map fun p => (key, p.1, p.2)
    | _ => none

/-- The fields of a table in braces, all on one line. -/
def fields? : Nat → Table → List Char → Option (Table × List Char)
  | 0, _, _ => none
  | fuel + 1, t, cs =>
    match field? fuel cs with
    | none => none
    | some (key, v, r) =>
      match t.add? v true key with
      | none => none
      | some t =>
        match skipBlanks r with
        | '\x7d' :: r => some (t, r)
        | ',' :: r => fields? fuel t r
        | _ => none

end

/-- Goes past the end of a line, with a comment before it. -/
def endLine? (cs : List Char) : Option (List Char) :=
  match skipComment? (skipBlanks cs) with
  | none => none
  | some [] => some []
  | some r => takeBreak? r

/-- A header: its path, and whether it has double brackets. -/
def header? (cs : List Char) : Option (Bool × List String × List Char) :=
  match cs with
  | '[' :: '[' :: r =>
    match key? (r.length + 1) r with
    | some (path, ']' :: ']' :: r) => some (true, path, r)
    | _ => none
  | '[' :: r =>
    match key? (r.length + 1) r with
    | some (path, ']' :: r) => some (false, path, r)
    | _ => none
  | _ => none

/-- The lines of a text, added to a table; `path` is that of the last header. -/
def table? : Nat → List String → Table → List Char → Option Table
  | 0, _, _, _ => none
  | fuel + 1, path, t, cs =>
    match gap? cs with
    | none => none
    | some [] => some t
    | some r =>
      match r with
      | '[' :: _ =>
        match header? r with
        | none => none
        | some (isNext, path, r) =>
          match t.open? isNext path, endLine? r with
          | some t, some r => table? fuel path t r
          | _, _ => none
      | _ =>
        match field? (2 * r.length + 4) r with
        | none => none
        | some (key, v, r) =>
          match t.addUnder? key v path, endLine? r with
          | some t, some r => table? fuel path t r
          | _, _ => none

def parse? (text : String) : Option Table :=
  let cs := Text.withoutMark text.toList
  table? (cs.length + 1) [] [] cs

end RollCall.Toml
