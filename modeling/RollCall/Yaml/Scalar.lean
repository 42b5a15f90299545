import RollCall.Number.Literal
import RollCall.Yaml.Cursor

set_option autoImplicit false

/-!
The text of scalars: plain, in quotes, and in blocks. Within the first two a line break counts as a
space and each further one as a line feed; blocks keep their lines or fold them.
-/
namespace RollCall.Yaml

/-- What stands between two parts of a scalar: blanks, or a first break and more breaks. -/
structure Gap where
  blanks : List Char
  first : Option (List Char)
  more : List Char

namespace Gap

def empty : Gap := ⟨[], none, []⟩

/-- A line feed is folded into a space, unless more breaks follow it. -/
def fold (g : Gap) : List Char :=
  match g.first with
  | none => g.blanks
  | some first =>
    if first = ['\n'] then (if g.more.isEmpty then [' '] else g.more) else first ++ g.more

/-- Goes past blanks and breaks; on a further line no tab may stand before a column. -/
def take? (least : Nat) : Nat → Gap → Cursor → Option (Gap × Cursor)
  | 0, g, c => some (g, c)
  | fuel + 1, g, c =>
    match c.rest.head? with
    | none => some (g, c)
    | some x =>
      if isBlank x then
        match g.first with
        | some _ => if x == '\t' && c.column < least then none else take? least fuel g (c.skip 1)
        | none => take? least fuel { g with blanks := g.blanks ++ [x] } (c.skip 1)
      else if c.isBreak x then
        let (b, c) := c.takeBreak
        match g.first with
        | none => take? least fuel ⟨[], some b, []⟩ c
        | some _ => take? least fuel { g with more := g.more ++ b } c
      else some (g, c)

end Gap

/-- Whether a colon here ends a plain scalar: before a blank, or in flow before a bracket. -/
def isEndColon (flow : Bool) (c : Cursor) : Bool :=
  c.at0 (· == ':') &&
    (c.endsWord 1 || (flow && c.edition = .v12 && (c.peek? 1).any isFlowIndicator))

/-- Whether a plain scalar ends here; brackets and commas end it in flow. -/
def endsPlain (flow : Bool) (c : Cursor) : Bool :=
  c.endsWord 0 || isEndColon flow c || (flow && c.at0 isFlowIndicator)

/-- Whether a colon stands where the first edition has none: before a bracket or question mark. -/
def isStrayColon (c : Cursor) : Bool :=
  c.edition = .v11 && c.at0 (· == ':') && (c.peek? 1).any fun x => isFlowIndicator x || x == '?'

/-- One word of a plain scalar; in flow, no stray colon may be in it. -/
def plainWord? (flow : Bool) : Nat → Cursor → Option (List Char × Cursor)
  | 0, c => some ([], c)
  | fuel + 1, c =>
    if c.endsWord 0 then some ([], c)
    else if flow && isStrayColon c then none
    else if endsPlain flow c then some ([], c)
    else
      match plainWord? flow fuel (c.skip 1) with
      | some (w, after) => some (c.rest.take 1 ++ w, after)
      | none => none

/-- A plain scalar after the gap `g`, with whether it ends on a line of its own. -/
def plain? (flow : Bool) (indent : Nat) : Nat → Gap → Cursor → Option (List Char × Cursor × Bool)
  | 0, g, c => some ([], c, g.first.isSome)
  | fuel + 1, g, c =>
    if c.isAtMark || c.at0 (· == '#') then some ([], c, g.first.isSome)
    else
      match plainWord? flow (c.rest.length + 1) c with
      | none => none
      | some (word, c) =>
        let text := if word.isEmpty then [] else g.fold ++ word
        let g := if word.isEmpty then g else Gap.empty
        if c.rest.head?.any fun x => isBlank x || c.isBreak x then
          match g.take? indent (c.rest.length + 1) c with
          | none => none
          | some (g, c) =>
            if !flow && c.column < indent then some (text, c, g.first.isSome)
            else
              match plain? flow indent fuel g c with
              | some (more, c, newLine) => some (text ++ more, c, newLine)
              | none => none
        else some (text, c, g.first.isSome)

/-- The character of an escape that has no digits. -/
def escape? (x : Char) : Option Char :=
  match x with
  | '0' => some (Char.ofNat 0)
  | 'a' => some (Char.ofNat 7)
  | 'b' => some (Char.ofNat 8)
  | 't' | '\t' => some '\t'
  | 'n' => some '\n'
  | 'v' => some (Char.ofNat 11)
  | 'f' => some (Char.ofNat 12)
  | 'r' => some '\r'
  | 'e' => some (Char.ofNat 0x1B)
  | ' ' => some ' '
  | '"' => some '"'
  | '/' => some '/'
  | '\\' => some '\\'
  | 'N' => some (Char.ofNat 0x85)
  | '_' => some (Char.ofNat 0xA0)
  | 'L' => some (Char.ofNat 0x2028)
  | 'P' => some (Char.ofNat 0x2029)
  | _ => none

/-- The number of digits of an escape with digits. -/
def escapeDigits? (x : Char) : Option Nat :=
  match x with
  | 'x' => some 2
  | 'u' => some 4
  | 'U' => some 8
  | _ => none

def escaped? (c : Cursor) : Option (Char × Cursor) := do
  let x ← c.peek? 1
  match escapeDigits? x with
  | some count =>
    let digits := (c.rest.drop 2).take count
    let n ← Literal.natural? 16 digits
    if digits.length ≠ count ∨ (0xD800 ≤ n ∧ n ≤ 0xDFFF) ∨ 0x10FFFF < n then none
    else some (Char.ofNat n, c.skip (2 + count))
  | none => (escape? x).map fun y => (y, c.skip 2)

/-- One word within quotes, with whether it ends in a break that is escaped. -/
def quotedWord? (quote : Char) : Nat → Cursor → Option (List Char × Cursor × Bool)
  | 0, c => some ([], c, false)
  | fuel + 1, c =>
    if c.endsWord 0 then some ([], c, false)
    else if quote == '\'' && c.startsWith ['\'', '\''] then
      (quotedWord? quote fuel (c.skip 2)).map fun r => ('\'' :: r.1, r.2)
    else if c.at0 (· == quote) then some ([], c, false)
    else if quote == '"' && c.at0 (· == '\\') then
      if (c.peek? 1).any c.isBreak then some ([], (c.skip 1).takeBreak.2, true)
      else
        match escaped? c with
        | none => none
        | some (x, after) => (quotedWord? quote fuel after).map fun r => (x :: r.1, r.2)
    else (quotedWord? quote fuel (c.skip 1)).map fun r => (c.rest.take 1 ++ r.1, r.2)

/-- A scalar in quotes, from behind the opening quote to behind the closing one. -/
def quoted? (quote : Char) : Nat → Cursor → Option (List Char × Cursor)
  | 0, _ => none
  | fuel + 1, c =>
    if c.isAtMark || c.rest.isEmpty then none
    else
      match quotedWord? quote (c.rest.length + 1) c with
      | none => none
      | some (word, c, joined) =>
        if c.at0 (· == quote) && !joined then some (word, c.skip 1)
        else
          let g : Gap := if joined then ⟨[], some [], []⟩ else Gap.empty
          match g.take? 0 (c.rest.length + 1) c with
          | none => none
          | some (g, c) => (quoted? quote fuel c).map fun r => (word ++ g.fold ++ r.1, r.2)

/-- What becomes of the breaks at the end of a block. -/
inductive Chomping where
  | clip
  | strip
  | keep
deriving DecidableEq, Repr

def chomping? (c : Cursor) : Option Chomping :=
  match c.rest.head? with
  | some '+' => some .keep
  | some '-' => some .strip
  | _ => none

/-- The step by which a block is indented; zero is none. -/
def increment? (c : Cursor) : Option Nat := c.rest.head?.bind (Literal.digitValue? 10)

/-- What the head of a block says, behind its indicator: chomping and indentation, in any order. -/
def blockHead? (c : Cursor) : Option (Chomping × Nat × Cursor) :=
  match chomping? c with
  | some chomping =>
    let c := c.skip 1
    match increment? c with
    | some 0 => none
    | some n => some (chomping, n, c.skip 1)
    | none => some (chomping, 0, c)
  | none =>
    match increment? c with
    | some 0 => none
    | some n =>
      let c := c.skip 1
      match chomping? c with
      | some chomping => some (chomping, n, c.skip 1)
      | none => some (.clip, n, c)
    | none => some (.clip, 0, c)

/-- Empty lines of a block. `indent` is zero while it is not known; `widest` is the widest line. -/
def blockBreaks? (indent : Nat) : Nat → Nat → List Char → Cursor → Option (Nat × List Char × Cursor)
  | 0, widest, breaks, c => some (widest, breaks, c)
  | fuel + 1, widest, breaks, c =>
    let spaces := (c.rest.takeWhile (· == ' ')).length
    let c := c.skip (if indent = 0 then spaces else min spaces (indent - c.column))
    let widest := max widest c.column
    if (indent = 0 || c.column < indent) && c.at0 (· == '\t') then none
    else if c.at0 c.isBreak then
      let (b, c) := c.takeBreak
      blockBreaks? indent fuel widest (breaks ++ b) c
    else some (widest, breaks, c)

/-- What a block holds so far: its text, the break after the last line, and the empty lines. -/
structure BlockText where
  text : List Char
  last : List Char
  empties : List Char
  /-- Whether the last line began with a blank. -/
  wasBlank : Bool

/-- The lines of a block of a known indentation. -/
def blockLines? (literal : Bool) (indent : Nat) : Nat → BlockText → Cursor →
    Option (BlockText × Cursor)
  | 0, b, c => some (b, c)
  | fuel + 1, b, c =>
    if c.column ≠ indent || c.rest.isEmpty then some (b, c)
    else
      let isBlankLine := c.at0 isBlank
      let joint :=
        if !literal && b.last = ['\n'] && !b.wasBlank && !isBlankLine then
          (if b.empties.isEmpty then [' '] else [])
        else b.last
      let (line, c) := c.takeWhile fun x => !c.isBreak x
      let (last, c) := c.takeBreak
      match blockBreaks? indent (c.rest.length + 1) 0 [] c with
      | none => none
      | some (_, empties, c) =>
        let text := b.text ++ joint ++ b.empties ++ line
        blockLines? literal indent fuel ⟨text, last, empties, isBlankLine⟩ c

/-- The breaks at the end of a block that has lines. -/
def BlockText.tail (chomping : Chomping) (isCut : Bool) (b : BlockText) : List Char :=
  let last := if isCut then b.last ++ ['\n'] else b.last
  match chomping with
  | .clip => last
  | .strip => []
  | .keep => last ++ b.empties

/-- What a block of the second edition holds that has no line: the breaks behind its head. -/
def emptyBlock (chomping : Chomping) (first empties : List Char) : List Char :=
  match chomping with
  | .clip => first
  | .strip => []
  | .keep => if empties.isEmpty then first else empties

/-- A block, from behind its indicator; the text around it is indented by `outer` columns. -/
def block? (literal : Bool) (outer : Int) (c : Cursor) : Option (List Char × Cursor) := do
  let (chomping, increment, c) ← blockHead? c
  let c := (c.dropWhile isBlank).skipComment
  if !c.endsLine then none
  let (first, c) := c.takeBreak
  let given := if increment = 0 then 0 else outer.toNat + increment
  let (widest, empties, c) ← blockBreaks? given (c.rest.length + 1) 0 [] c
  if c.edition = .v12 && c.rest.isEmpty then return (emptyBlock chomping first empties, c)
  let indent := if given ≠ 0 then given else max (max widest (outer + 1).toNat) 1
  let (b, c) ← blockLines? literal indent (c.rest.length + 1) ⟨[], [], empties, false⟩ c
  let isCut := c.edition = .v12 && c.rest.isEmpty && indent ≤ c.column
  return (b.text ++ b.tail chomping isCut, c)

end RollCall.Yaml
