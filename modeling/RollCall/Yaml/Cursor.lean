set_option autoImplicit false

/-!
A place in a YAML text: what is left to read, and the line and column there. A text is read by the
rules of one edition of YAML.
-/
namespace RollCall.Yaml

/--
The editions of YAML. In the first, three characters beyond ASCII break lines too, and only words
name anchors. In the second, the end of a text ends its last line, a tab may stand before the first
token of a line, and in brackets a colon may stand directly before a bracket or comma.
-/
inductive Edition where
  | v11
  | v12
deriving DecidableEq, Repr

def isBlank (c : Char) : Bool := c == ' ' || c == '\t'

/-- The characters that break lines. -/
def Edition.isBreak (e : Edition) (c : Char) : Bool :=
  c == '\n' || c == '\r' ||
    (e = .v11 && (c.toNat == 0x85 || c.toNat == 0x2028 || c.toNat == 0x2029))

/-- The characters of names of anchors and directives. -/
def isWord (c : Char) : Bool := c.isAlphanum || c == '_' || c == '-'

/-- The characters that lists and maps in brackets are made of. -/
def isFlowIndicator (c : Char) : Bool :=
  c == ',' || c == '[' || c == ']' || c == '\x7b' || c == '\x7d'

structure Cursor where
  edition : Edition
  rest : List Char
  /-- The number of characters before. -/
  index : Nat
  line : Nat
  column : Nat
deriving DecidableEq, Repr

namespace Cursor

def ofText (e : Edition) (cs : List Char) : Cursor := ⟨e, cs, 0, 0, 0⟩

def isBreak (c : Cursor) (x : Char) : Bool := c.edition.isBreak x

def peek? (c : Cursor) (ahead : Nat) : Option Char := c.rest[ahead]?

def startsWith (c : Cursor) (cs : List Char) : Bool := cs.isPrefixOf c.rest

def at0 (c : Cursor) (p : Char → Bool) : Bool := c.rest.head?.any p

/-- Whether a word ends some places ahead: at a blank, a break or the end. -/
def endsWord (c : Cursor) (ahead : Nat) : Bool :=
  (c.peek? ahead).all fun x => isBlank x || c.isBreak x

def endsLine (c : Cursor) : Bool := c.rest.head?.all c.isBreak

/-- Goes past characters that are no breaks. -/
def skip (c : Cursor) (count : Nat) : Cursor :=
  { c with
    rest := c.rest.drop count
    index := c.index + count
    column := c.column + count }

/-- Goes past characters of one kind, none of them breaks. -/
def takeWhile (c : Cursor) (p : Char → Bool) : List Char × Cursor :=
  let taken := c.rest.takeWhile p
  (taken, c.skip taken.length)

def dropWhile (c : Cursor) (p : Char → Bool) : Cursor := (c.takeWhile p).2

/-- Goes past a break, if there is one. Breaks of the common kinds count as line feeds. -/
def takeBreak (c : Cursor) : List Char × Cursor :=
  let next (count : Nat) : Cursor :=
    ⟨c.edition, c.rest.drop count, c.index + count, c.line + 1, 0⟩
  match c.rest with
  | '\r' :: '\n' :: _ => (['\n'], next 2)
  | x :: _ =>
    if !c.isBreak x then ([], c)
    else if x == '\r' || x == '\n' || x.toNat == 0x85 then (['\n'], next 1)
    else ([x], next 1)
  | [] => ([], c)

/-- Whether a line begins here with one of the marks that begin and end documents. -/
def isAtMark (c : Cursor) : Bool :=
  c.column == 0 && (c.startsWith ['-', '-', '-'] || c.startsWith ['.', '.', '.']) && c.endsWord 3

def skipComment (c : Cursor) : Cursor :=
  if c.at0 (· == '#') then c.dropWhile fun x => !c.isBreak x else c

end Cursor

end RollCall.Yaml
