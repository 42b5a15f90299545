import RollCall.Yaml.Scalar

set_option autoImplicit false

/-!
The tokens of a YAML text, and how those with a text of their own are read: names of anchors, tags
and directives.
-/
namespace RollCall.Yaml

inductive Token where
  /-- The directive that states the version of YAML. -/
  | version (major minor : Nat)
  /-- The directive that states what a handle of tags stands for. -/
  | tagHandle (name uri : List Char)
  | documentStart
  | documentEnd
  | blockSequenceStart
  | blockMappingStart
  | blockEnd
  | flowSequenceStart
  | flowSequenceEnd
  | flowMappingStart
  | flowMappingEnd
  | blockEntry
  | flowEntry
  | key
  | value
  | alias (name : List Char)
  | anchor (name : List Char)
  | tag (handle suffix : List Char)
  | scalar (text : List Char) (isPlain : Bool)
  | streamEnd
deriving DecidableEq, Repr

namespace Token

def isAnchorChar (e : Edition) (x : Char) : Bool :=
  match e with
  | .v11 => isWord x
  | .v12 => !isBlank x && !e.isBreak x && !isFlowIndicator x

def anchorName? (c : Cursor) : Option (List Char × Cursor) :=
  let (name, c) := c.takeWhile (isAnchorChar c.edition)
  let ends := c.edition = .v12 || c.endsWord 0 || c.at0 fun x =>
    "?:,]\x7d%@\x60".toList.contains x
  if name.isEmpty || !ends then none else some (name, c)

/-- The characters of a tag other than percent signs; `full` are those between angle brackets. -/
def isTagChar (full : Bool) (x : Char) : Bool :=
  isWord x || ";/?:@&=+$.!~*'()".toList.contains x || (full && (x == ',' || x == '[' || x == ']'))

/-- An octet that is written as a percent sign and two digits. -/
def octet? (c : Cursor) : Option (Nat × Cursor) :=
  if c.at0 (· == '%') then
    let digits := (c.rest.drop 1).take 2
    if digits.length = 2 then (Literal.natural? 16 digits).map fun n => (n, c.skip 3) else none
  else none

/-- The further octets of one character. -/
def octets? : Nat → Nat → Cursor → Option (Nat × Cursor)
  | 0, n, c => some (n, c)
  | count + 1, n, c =>
    match octet? c with
    | some (o, c) => if o / 64 = 2 then octets? count (n * 64 + o % 64) c else none
    | none => none

/-- A character that is written as its octets. -/
def escapedChar? (c : Cursor) : Option (Char × Cursor) := do
  let (o, c) ← octet? c
  let (n, c) ←
    if o < 0x80 then some (o, c)
    else if o / 32 = 6 then octets? 1 (o % 32) c
    else if o / 16 = 14 then octets? 2 (o % 16) c
    else if o / 8 = 30 then octets? 3 (o % 8) c
    else none
  if n.isValidChar then some (Char.ofNat n, c) else none

/-- The characters of a tag as far as they go. -/
def tagChars? (full : Bool) : Nat → Cursor → Option (List Char × Cursor)
  | 0, c => some ([], c)
  | fuel + 1, c =>
    if c.at0 (· == '%') then
      match escapedChar? c with
      | some (x, c) => (tagChars? full fuel c).map fun r => (x :: r.1, r.2)
      | none => none
    else if c.at0 (isTagChar full) then
      (tagChars? full fuel (c.skip 1)).map fun r => (c.rest.take 1 ++ r.1, r.2)
    else some ([], c)

def tagText? (full : Bool) (c : Cursor) : Option (List Char × Cursor) :=
  tagChars? full (c.rest.length + 1) c

/-- The beginning of a tag: an exclamation mark, or a word between two. -/
def handle? (c : Cursor) : Option (List Char × Cursor) :=
  if c.at0 (· == '!') then
    let (name, c) := (c.skip 1).takeWhile isWord
    if c.at0 (· == '!') then some ('!' :: name ++ ['!'], c.skip 1) else some ('!' :: name, c)
  else none

/-- A handle is closed when it begins and ends with marks of its own. -/
def isClosed (handle : List Char) : Bool :=
  2 ≤ handle.length && handle.getLast? == some '!'

/-- The handle and suffix of a tag: in angle brackets, behind a handle, or behind a single mark. -/
def tagParts? (c : Cursor) : Option (List Char × List Char × Cursor) := do
  if c.startsWith ['!', '<'] then
    let (uri, c) ← tagText? true (c.skip 2)
    if uri.isEmpty || !c.at0 (· == '>') then none else some ([], uri, c.skip 1)
  else
    let (handle, c) ← handle? c
    let (suffix, c) ← tagText? false c
    if isClosed handle then
      if suffix.isEmpty then none else some (handle, suffix, c)
    else
      let suffix := handle.drop 1 ++ suffix
      if suffix.isEmpty then some ([], ['!'], c) else some (['!'], suffix, c)

/-- A tag; in flow a comma may follow it. -/
def tag? (flow : Bool) (c : Cursor) : Option (Token × Cursor) := do
  let (handle, suffix, c) ← tagParts? c
  if c.endsWord 0 || (flow && c.at0 (· == ',')) then some (.tag handle suffix, c) else none

/-- A number of at most nine digits. -/
def versionNumber? (c : Cursor) : Option (Nat × Cursor) :=
  let (digits, c) := c.takeWhile Char.isDigit
  if 9 < digits.length then none else (Literal.natural? 10 digits).map fun n => (n, c)

def version? (c : Cursor) : Option (Token × Cursor) := do
  let (major, c) ← versionNumber? c
  if !c.at0 (· == '.') then none
  let (minor, c) ← versionNumber? (c.skip 1)
  return (.version major minor, c)

def handleDirective? (c : Cursor) : Option (Token × Cursor) := do
  let (handle, c) ← handle? c
  if !(isClosed handle || handle == ['!']) || !c.at0 isBlank then none
  let (uri, c) ← tagText? true (c.dropWhile isBlank)
  if uri.isEmpty || !c.endsWord 0 then none
  return (.tagHandle handle uri, c)

def directive? (c : Cursor) : Option (Token × Cursor) := do
  let (name, c) := c.takeWhile isWord
  if !c.endsWord 0 then none
  let c := c.dropWhile isBlank
  let (token, c) ←
    if name = "YAML".toList then version? c
    else if name = "TAG".toList then handleDirective? c
    else none
  let c := (c.dropWhile isBlank).skipComment
  if c.endsLine then some (token, c.takeBreak.2) else none

end Token

end RollCall.Yaml
