import RollCall.Yaml.Token.Basic

set_option autoImplicit false

/-!
The tokens of a YAML text in order. Indentation opens and closes blocks; a scalar, alias or bracket
that a colon follows on its line is a key, and its key token is put in front of it then.
-/
namespace RollCall.Yaml

/-- A place that is a key if a colon follows. -/
structure SimpleKey where
  /-- Nothing else can stand here. -/
  required : Bool
  /-- The number of tokens before it. -/
  position : Nat
  index : Nat
  line : Nat
  column : Nat
deriving DecidableEq, Repr

/-- The greatest number of characters from the beginning of a key to its colon. -/
def SimpleKey.reach : Nat := 1024

def SimpleKey.isStale (k : SimpleKey) (c : Cursor) : Bool :=
  k.line < c.line || k.index + SimpleKey.reach < c.index

/-- A text that is read up to a place. -/
structure TokenStream where
  cursor : Cursor
  tokens : Array Token
  /-- The possible key between the innermost brackets. -/
  key : Option SimpleKey
  /-- The possible keys around them, one for each pair of brackets. -/
  outerKeys : List (Option SimpleKey)
  /-- The column of the innermost block; -1 outside of all. -/
  indent : Int
  outerIndents : List Int
  /-- Whether a key may begin here. -/
  keyAllowed : Bool

namespace TokenStream

def start (e : Edition) (cs : List Char) : TokenStream :=
  ⟨Cursor.ofText e cs, #[], none, [], -1, [], true⟩

def inFlow (s : TokenStream) : Bool := !s.outerKeys.isEmpty

/-- Appends a token of some characters. -/
def push (t : Token) (count : Nat) (s : TokenStream) : TokenStream :=
  { s with tokens := s.tokens.push t, cursor := s.cursor.skip count }

/--
Blanks, comments and breaks up to a token. In the first edition a tab may stand only where no key
may begin.
-/
def gapEnd (flow : Bool) : Nat → Bool → Cursor → Bool × Cursor
  | 0, keyAllowed, c => (keyAllowed, c)
  | fuel + 1, keyAllowed, c =>
    let tabAllowed := flow || !keyAllowed || c.edition = .v12
    let c := (c.dropWhile fun x => x == ' ' || (tabAllowed && x == '\t')).skipComment
    if c.at0 c.isBreak then gapEnd flow fuel (keyAllowed || !flow) c.takeBreak.2
    else (keyAllowed, c)

def skipGap (s : TokenStream) : TokenStream :=
  let (keyAllowed, c) := gapEnd s.inFlow (s.cursor.rest.length + 1) s.keyAllowed s.cursor
  { s with keyAllowed, cursor := c }

/-- Forgets a possible key of which the colon is too far away; a required one is an error. -/
def forgetStale? (c : Cursor) : Option SimpleKey → Option (Option SimpleKey)
  | some k => if k.isStale c then (if k.required then none else some none) else some (some k)
  | none => some none

def forgetStaleKeys? (s : TokenStream) : Option TokenStream := do
  let key ← forgetStale? s.cursor s.key
  let outerKeys ← s.outerKeys.mapM (forgetStale? s.cursor)
  return { s with key, outerKeys }

/-- Forgets the possible key; a required one is an error. -/
def forgetKey? (s : TokenStream) : Option TokenStream :=
  if s.key.any SimpleKey.required then none else some { s with key := none }

/-- Notes that a key may begin here. -/
def noteKey? (s : TokenStream) : Option TokenStream :=
  if s.keyAllowed then do
    let s ← s.forgetKey?
    let c := s.cursor
    let required := !s.inFlow && s.indent == c.column
    return { s with key := some ⟨required, s.tokens.size, c.index, c.line, c.column⟩ }
  else some s

/-- Opens a block at a column, unless one is open there; its token is put at a position. -/
def openBlock (column position : Nat) (t : Token) (s : TokenStream) : TokenStream :=
  if s.inFlow || column ≤ s.indent then s
  else
    { s with
      indent := column
      outerIndents := s.indent :: s.outerIndents
      tokens := s.tokens.insertIdxIfInBounds position t }

/-- Opens a block here, where an indicator stands. -/
def openBlockHere? (t : Token) (s : TokenStream) : Option TokenStream :=
  if s.inFlow then some s
  else if s.keyAllowed then some (s.openBlock s.cursor.column s.tokens.size t)
  else none

/-- Closes the blocks that are further to the right than a column. -/
def closed (column : Int) : Int → List Int → Array Token → Int × List Int × Array Token
  | indent, outer :: rest, tokens =>
    if indent ≤ column then (indent, outer :: rest, tokens)
    else closed column outer rest (tokens.push .blockEnd)
  | indent, [], tokens => (indent, [], tokens)

def closeBlocks (column : Int) (s : TokenStream) : TokenStream :=
  if s.inFlow then s
  else
    let (indent, outerIndents, tokens) := closed column s.indent s.outerIndents s.tokens
    { s with indent, outerIndents, tokens }

/-- Ends all blocks before a mark or directive. -/
def endBlocks? (s : TokenStream) : Option TokenStream :=
  (s.closeBlocks (-1)).forgetKey?.map fun s => { s with keyAllowed := false }

def directive? (s : TokenStream) : Option TokenStream := do
  let s ← s.endBlocks?
  let (t, c) ← Token.directive? (s.cursor.skip 1)
  return { s with tokens := s.tokens.push t, cursor := c }

def mark? (t : Token) (s : TokenStream) : Option TokenStream :=
  s.endBlocks?.map fun s => s.push t 3

def openFlow? (t : Token) (s : TokenStream) : Option TokenStream := do
  let s ← s.noteKey?
  return { s.push t 1 with key := none, outerKeys := s.key :: s.outerKeys, keyAllowed := true }

def closeFlow? (t : Token) (s : TokenStream) : Option TokenStream := do
  let s ← s.forgetKey?
  let s := { s.push t 1 with keyAllowed := false }
  match s.outerKeys with
  | key :: outerKeys => return { s with key, outerKeys }
  | [] => return s

def comma? (s : TokenStream) : Option TokenStream :=
  s.forgetKey?.map fun s => { s.push .flowEntry 1 with keyAllowed := true }

def dash? (s : TokenStream) : Option TokenStream := do
  let s ← (← s.openBlockHere? .blockSequenceStart).forgetKey?
  return { s.push .blockEntry 1 with keyAllowed := true }

/-- A key that a question mark begins. -/
def questionMark? (s : TokenStream) : Option TokenStream := do
  let s ← (← s.openBlockHere? .blockMappingStart).forgetKey?
  return { s.push .key 1 with keyAllowed := !s.inFlow }

/-- In the second edition, a word must not follow a colon behind tabs alone. -/
def isBadGap (c : Cursor) : Bool :=
  let blanks := c.rest.takeWhile isBlank
  c.edition = .v12 && blanks.head? == some '\t' && !blanks.contains ' ' &&
    (c.dropWhile isBlank).at0 isWord

/-- A colon: what was a possible key is one. -/
def colon? (s : TokenStream) : Option TokenStream :=
  if isBadGap (s.cursor.skip 1) then none
  else
    match s.key with
    | some k =>
      let s := { s with tokens := s.tokens.insertIdxIfInBounds k.position .key, key := none }
      let s := s.openBlock k.column k.position .blockMappingStart
      some { s.push .value 1 with keyAllowed := false }
    | none => do
      let s ← s.openBlockHere? .blockMappingStart
      return { s.push .value 1 with keyAllowed := !s.inFlow }

/-- A token that may begin a key, with the place behind it. -/
def word? (token? : Cursor → Option (Token × Cursor)) (s : TokenStream) : Option TokenStream := do
  let s ← s.noteKey?
  let (t, c) ← token? s.cursor
  return { s with tokens := s.tokens.push t, cursor := c, keyAllowed := false }

def alias? (c : Cursor) : Option (Token × Cursor) :=
  (Token.anchorName? (c.skip 1)).map fun r => (.alias r.1, r.2)

def anchor? (c : Cursor) : Option (Token × Cursor) :=
  (Token.anchorName? (c.skip 1)).map fun r => (.anchor r.1, r.2)

def quoted? (quote : Char) (c : Cursor) : Option (Token × Cursor) :=
  (Yaml.quoted? quote (c.rest.length + 1) (c.skip 1)).map fun r => (.scalar r.1 false, r.2)

def block? (literal : Bool) (s : TokenStream) : Option TokenStream := do
  let s ← s.forgetKey?
  let (text, c) ← Yaml.block? literal s.indent (s.cursor.skip 1)
  return { s with tokens := s.tokens.push (.scalar text false), cursor := c, keyAllowed := true }

/-- A plain scalar; a key may begin after one that ends on a line of its own. -/
def plain? (s : TokenStream) : Option TokenStream := do
  let s ← s.noteKey?
  let indent := (s.indent + 1).toNat
  let (text, c, newLine) ← Yaml.plain? s.inFlow indent (s.cursor.rest.length + 1) Gap.empty s.cursor
  return { s with tokens := s.tokens.push (.scalar text true), cursor := c, keyAllowed := newLine }

/-- Whether a plain scalar may begin here, no indicator standing here. -/
def startsPlain (flow : Bool) (c : Cursor) : Bool :=
  match c.rest.head? with
  | none => false
  | some '-' => !(c.peek? 1).any isBlank
  | some '?' | some ':' => !flow && !c.endsWord 1
  | some x => !isBlank x && !c.isBreak x && !",[]#&*!|>'\"%@\x60\x7b\x7d".toList.contains x

def token? (s : TokenStream) : Option TokenStream :=
  let c := s.cursor
  if c.column = 0 && c.at0 (· == '%') then s.directive?
  else if c.isAtMark then s.mark? (if c.at0 (· == '-') then .documentStart else .documentEnd)
  else
    match c.rest.head? with
    | some '[' => s.openFlow? .flowSequenceStart
    | some '\x7b' => s.openFlow? .flowMappingStart
    | some ']' => s.closeFlow? .flowSequenceEnd
    | some '\x7d' => s.closeFlow? .flowMappingEnd
    | some ',' => s.comma?
    | some '*' => s.word? alias?
    | some '&' => s.word? anchor?
    | some '!' => s.word? (Token.tag? s.inFlow)
    | some '\'' => s.word? (quoted? '\'')
    | some '"' => s.word? (quoted? '"')
    | some x =>
      if x == '-' && c.endsWord 1 then s.dash?
      else if x == '?' && (s.inFlow || c.endsWord 1) then s.questionMark?
      else if x == ':' && (s.inFlow || c.endsWord 1) then s.colon?
      else if x == '|' && !s.inFlow then s.block? true
      else if x == '>' && !s.inFlow then s.block? false
      else if startsPlain s.inFlow c then s.plain?
      else none
    | none => none

/-- The end of the text: all blocks end. -/
def finish? (s : TokenStream) : Option (Array Token) :=
  (s.closeBlocks (-1)).forgetKey?.map fun s => s.tokens.push .streamEnd

def tokens? : Nat → TokenStream → Option (Array Token)
  | 0, _ => none
  | fuel + 1, s =>
    match s.skipGap.forgetStaleKeys? with
    | none => none
    | some s =>
      let s := s.closeBlocks s.cursor.column
      if s.cursor.rest.isEmpty then s.finish?
      else
        match s.token? with
        | some s => tokens? fuel s
        | none => none

end TokenStream

/-- The tokens of a text, if it is one of YAML. -/
def tokens? (e : Edition) (cs : List Char) : Option (Array Token) :=
  (TokenStream.start e cs).tokens? (cs.length + 1)

end RollCall.Yaml
