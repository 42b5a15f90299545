import RollCall.Settings.Environment
import RollCall.Text.Alphanumeric
import RollCall.Text.Blank
import RollCall.Text.Mark

set_option autoImplicit false

/-!
Files of variables: a line `NAME=value` sets a variable that is not set yet. Values may be quoted,
hold escapes, and name other variables behind a dollar sign; a quoted value may go on over several
lines. Reading stops silently at the first line that makes no sense.
-/
namespace RollCall.EnvFile

/-- Where the characters of a line stand with respect to quotes, escapes and comments. -/
inductive LineState where
  | complete
  | blank
  | escape
  | strong
  | strongEscape
  | weak
  | weakEscape
  | comment
deriving DecidableEq, Repr

namespace LineState

/-- Outside of quotes; a comment begins only behind a blank. -/
def outside (s : LineState) (c : Char) : LineState :=
  if s = .blank && c == '#' then .comment
  else if c == '\\' then .escape
  else if c == '"' then .weak
  else if c == '\'' then .strong
  else if s = .complete && Text.isSpace c && c != '\n' && c != '\r' then .blank
  else .complete

def next (s : LineState) (c : Char) : LineState :=
  match s with
  | .complete | .blank => s.outside c
  | .escape => .complete
  | .weak => if c == '\\' then .weakEscape else if c == '"' then .complete else .weak
  | .weakEscape => .weak
  | .strong => if c == '\\' then .strongEscape else if c == '\'' then .complete else .strong
  | .strongEscape => .strong
  | .comment => .comment

end LineState

/-- The state at the end of a line, and the part of the line before its comment. -/
def scanLine (s : LineState) : List Char → LineState × List Char
  | [] => (s, [])
  | c :: rest =>
    match s.next c with
    | .comment => (.comment, [])
    | s =>
      let r := scanLine s rest
      (r.1, c :: r.2)

def withoutBreak (line : List Char) : List Char :=
  match line.reverse with
  | '\n' :: '\r' :: r => r.reverse
  | '\n' :: r => r.reverse
  | _ => line

/-- The first line of a text with its break, and the text behind it. -/
def firstLine : List Char → List Char × List Char
  | [] => ([], [])
  | c :: rest =>
    if c == '\n' then ([c], rest)
    else
      let r := firstLine rest
      (c :: r.1, r.2)

def isComment (line : List Char) : Bool := (line.dropWhile Text.isSpace).head? == some '#'

/-- The lines of a text, with lines in quotes joined; those up to the first that has no end. -/
def lines : Nat → LineState → List Char → List Char → List (List Char)
  | 0, _, _, _ => []
  | _ + 1, _, _, [] => []
  | fuel + 1, s, before, cs =>
    let (line, rest) := firstLine cs
    if isComment (before ++ line) then [] :: lines fuel .complete [] rest
    else
      match scanLine s line with
      | (.complete, _) => withoutBreak (before ++ line) :: lines fuel .complete [] rest
      | (.comment, kept) => (before ++ kept) :: lines fuel .complete [] rest
      | (s, _) => lines fuel s (before ++ line) rest

/-- Whether the name of a variable is being read, and how it ends. -/
inductive NameForm where
  | none
  /-- It ends at the first character that is no letter or number. -/
  | bare
  /-- It ends at a closing brace. -/
  | braced
deriving DecidableEq, Repr

/-- A value that is read up to a place. -/
structure ValueState where
  inStrong : Bool := false
  inWeak : Bool := false
  escaped : Bool := false
  /-- A blank has ended the value. -/
  ended : Bool := false
  form : NameForm := .none
  name : List Char := []
  value : List Char := []

namespace ValueState

def push (s : ValueState) (c : Char) : ValueState := { s with value := s.value ++ [c] }

/-- Puts the value of the variable in place of its name; one that is not set is empty. -/
def substitute (env : Environment) (s : ValueState) : ValueState :=
  let found := (env.lookup (String.ofList s.name)).getD ""
  { s with value := s.value ++ found.toList, name := [], form := .none }

/-- A character behind a backslash. -/
def unescape? (s : ValueState) (c : Char) : Option ValueState :=
  let s := { s with escaped := false }
  if c == '\\' || c == '\'' || c == '"' || c == '$' || c == ' ' then some (s.push c)
  else if c == 'n' then some (s.push '\n')
  else none

/-- A character within the name of a variable, or behind it. -/
def inName (env : Environment) (s : ValueState) (c : Char) : ValueState :=
  if Text.isAlphanumeric c then { s with name := s.name ++ [c] }
  else if s.form = .braced then
    if c == '\x7d' then s.substitute env else { s with name := s.name ++ [c] }
  else if c == '\x7b' && s.name.isEmpty then { s with form := .braced }
  else if c == '$' then { s.substitute env with form := .bare }
  else (s.substitute env).push c

def next? (env : Environment) (s : ValueState) (c : Char) : Option ValueState :=
  if s.escaped then s.unescape? c
  else if s.inStrong then some (if c == '\'' then { s with inStrong := false } else s.push c)
  else if s.form ≠ .none then some (s.inName env c)
  else if c == '$' then some { s with form := .bare }
  else if s.inWeak then
    some (if c == '"' then { s with inWeak := false }
      else if c == '\\' then { s with escaped := true }
      else s.push c)
  else if c == '\'' then some { s with inStrong := true }
  else if c == '"' then some { s with inWeak := true }
  else if c == '\\' then some { s with escaped := true }
  else if c == ' ' || c == '\t' then some { s with ended := true }
  else some (s.push c)

/-- The value at the end; quotes and braces must be closed. -/
def finish? (env : Environment) (s : ValueState) : Option (List Char) :=
  if s.form = .braced || s.inStrong || s.inWeak then none else some (s.substitute env).value

/-- Reads a value; behind its end only blanks and a comment may stand. -/
def read? (env : Environment) : ValueState → List Char → Option (List Char)
  | s, [] => s.finish? env
  | s, c :: rest =>
    if s.ended then
      if c == ' ' || c == '\t' then read? env s rest
      else if c == '#' then s.finish? env
      else none
    else
      match s.next? env c with
      | some s => read? env s rest
      | none => none

end ValueState

def name? (cs : List Char) : Option (List Char × List Char) :=
  let isPart (c : Char) : Bool := c.isAlphanum || c == '_' || c == '.'
  if cs.head?.any fun c => c.isAlpha || c == '_' then
    some (cs.takeWhile isPart, (cs.dropWhile isPart).dropWhile Text.isSpace)
  else none

/-- The name and the rest behind the equals sign; the word `export` may stand before the name. -/
def assigned? (cs : List Char) : Option (List Char × List Char) := do
  let (name, rest) ← name? cs
  match rest with
  | '=' :: rest => return (name, rest)
  | _ =>
    if name ≠ "export".toList then none
    else
      match ← name? rest with
      | (name, '=' :: rest) => return (name, rest)
      | _ => none

inductive Line where
  | nothing
  | assignment (name value : String)
  | nonsense
deriving DecidableEq, Repr

def Line.ofChars (env : Environment) (cs : List Char) : Line :=
  let cs := Text.trimChars cs
  if cs.isEmpty || cs.head? == some '#' then .nothing
  else
    match assigned? cs with
    | none => .nonsense
    | some (name, rest) =>
      let rest := rest.dropWhile Text.isSpace
      if rest.isEmpty || rest.head? == some '#' then .assignment (String.ofList name) ""
      else
        match ValueState.read? env {} rest with
        | some v => .assignment (String.ofList name) (String.ofList v)
        | none => .nonsense

/-- Sets the variables of lines, up to the first line that makes no sense. -/
def setLines (env : Environment) : List (List Char) → Environment
  | [] => env
  | line :: rest =>
    match Line.ofChars env line with
    | .nothing => setLines env rest
    | .assignment name value => setLines (env.setNew name value) rest
    | .nonsense => env

def load (env : Environment) (text : String) : Environment :=
  let cs := Text.withoutMark text.toList
  setLines env (lines (cs.length + 1) .complete [] cs)

end RollCall.EnvFile
