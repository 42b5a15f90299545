import RollCall.Yaml.Node.Basic
import RollCall.Yaml.Token.Stream

set_option autoImplicit false

/-!
The documents of a YAML text, each as its root node.
-/
namespace RollCall.Yaml

/-- What a handle of tags stands for, by handle. -/
abbrev Handles := List (List Char × List Char)

def standardHandles : Handles := [(['!'], ['!']), (['!', '!'], "tag:yaml.org,2002:".toList)]

/-- The tokens ahead, and the nodes that have been named so far, in order of their beginning. -/
structure NodeReader where
  rest : List Token
  handles : Handles
  anchored : Array (List Char × Node)

namespace NodeReader

def skip (r : NodeReader) : NodeReader := { r with rest := r.rest.drop 1 }

/-- Whether the next token is one of some kinds. -/
def isAt (r : NodeReader) (p : Token → Bool) : Bool := r.rest.head?.any p

/-- The node that a name stands for now. -/
def named? (r : NodeReader) (name : List Char) : Option Node :=
  (r.anchored.toList.reverse.find? fun a => a.1 == name).map Prod.snd

/-- Gives a name to the node that begins; it is a cycle until its end. -/
def declare (name : Option (List Char)) (r : NodeReader) : NodeReader :=
  match name with
  | some name => { r with anchored := r.anchored.push (name, .cycle) }
  | none => r

/-- Completes the name that was given at a place. -/
def complete (name : Option (List Char)) (place : Nat) (n : Node) (r : NodeReader) : NodeReader :=
  match name with
  | some name => { r with anchored := r.anchored.setIfInBounds place (name, n) }
  | none => r

/-- The name and the tag of a node, in any order. -/
def properties (r : NodeReader) :
    Option (List Char) × Option (List Char × List Char) × NodeReader :=
  match r.rest with
  | .anchor a :: .tag h s :: rest | .tag h s :: .anchor a :: rest =>
    (some a, some (h, s), { r with rest })
  | .anchor a :: rest => (some a, none, { r with rest })
  | .tag h s :: rest => (none, some (h, s), { r with rest })
  | _ => (none, none, r)

def wholeTag? (handles : Handles) (tag : List Char × List Char) : Option String :=
  if tag.1.isEmpty then some (String.ofList tag.2)
  else (handles.lookup tag.1).map fun start => String.ofList (start ++ tag.2)

/-- A tag of a mark alone says nothing about a scalar. -/
def scalarTag (tag : Option String) : Option String := tag.filter (· != "!")

/-- Where a value or an item may be left out. -/
def endsValue (t : Token) : Bool := t == .key || t == .value || t == .blockEnd

def endsItem (t : Token) : Bool := t == .blockEntry || endsValue t

def endsFlowItem (t : Token) : Bool := t == .flowEntry || t == .flowSequenceEnd

def endsFlowValue (t : Token) : Bool := t == .flowEntry || t == .flowMappingEnd

mutual

/-- One node; `block` allows blocks, `indentless` allows items at the column of their key. -/
def node? : Nat → Bool → Bool → NodeReader → Option (Node × NodeReader)
  | 0, _, _, _ => none
  | fuel + 1, block, indentless, r =>
    match r.rest with
    | .alias name :: rest =>
      match r.named? name with
      | some .cycle => some (.cycle, { r with rest })
      | some n => some (.alias n, { r with rest })
      | none => none
    | _ =>
      let (name, tag, r) := r.properties
      let place := r.anchored.size
      let hasProperties := name.isSome || tag.isSome
      match tag.map (wholeTag? r.handles) with
      | some none => none
      | whole =>
        match content? fuel block indentless hasProperties (whole.bind id) (r.declare name) with
        | some (n, r) => some (n, r.complete name place n)
        | none => none

/-- A node behind its properties; one that has some may be left out. -/
def content? : Nat → Bool → Bool → Bool → Option String → NodeReader → Option (Node × NodeReader)
  | 0, _, _, _, _, _ => none
  | fuel + 1, block, indentless, hasProperties, tag, r =>
    match r.rest with
    | .scalar text isPlain :: rest =>
      some (.scalar (String.ofList text) isPlain (scalarTag tag), { r with rest })
    | .flowSequenceStart :: rest =>
      (flowItems? fuel true { r with rest }).map fun p => (.sequence p.1 tag, p.2)
    | .flowMappingStart :: rest =>
      (flowEntries? fuel true { r with rest }).map fun p => (.mapping p.1 tag, p.2)
    | t :: rest =>
      if indentless && t == .blockEntry then
        (looseItems? fuel r).map fun p => (.sequence p.1 tag, p.2)
      else if block && t == .blockSequenceStart then
        (items? fuel { r with rest }).map fun p => (.sequence p.1 tag, p.2)
      else if block && t == .blockMappingStart then
        (entries? fuel { r with rest }).map fun p => (.mapping p.1 tag, p.2)
      else if hasProperties then some (.scalar "" true tag, r)
      else none
    | [] => none

/-- A node in a block, or nothing before a token that ends it. -/
def blockNode? : Nat → Bool → (Token → Bool) → NodeReader → Option (Node × NodeReader)
  | 0, _, _, _ => none
  | fuel + 1, indentless, ends, r =>
    if r.isAt ends then some (.empty, r) else node? fuel true indentless r

/-- A node in brackets, or nothing before a token that ends it. -/
def flowNode? : Nat → (Token → Bool) → NodeReader → Option (Node × NodeReader)
  | 0, _, _ => none
  | fuel + 1, ends, r => if r.isAt ends then some (.empty, r) else node? fuel false false r

def items? : Nat → NodeReader → Option (List Node × NodeReader)
  | 0, _ => none
  | fuel + 1, r =>
    if r.isAt (· == .blockEnd) then some ([], r.skip)
    else if r.isAt (· == .blockEntry) then
      match blockNode? fuel false (fun t => t == .blockEntry || t == .blockEnd) r.skip with
      | some (n, r) => (items? fuel r).map fun p => (n :: p.1, p.2)
      | none => none
    else none

/-- Items at the column of their key, which no token closes. -/
def looseItems? : Nat → NodeReader → Option (List Node × NodeReader)
  | 0, _ => none
  | fuel + 1, r =>
    if r.isAt (· == .blockEntry) then
      match blockNode? fuel false endsItem r.skip with
      | some (n, r) => (looseItems? fuel r).map fun p => (n :: p.1, p.2)
      | none => none
    else some ([], r)

def entries? : Nat → NodeReader → Option (List (Node × Node) × NodeReader)
  | 0, _ => none
  | fuel + 1, r =>
    if r.isAt (· == .blockEnd) then some ([], r.skip)
    else if r.isAt (· == .key) then
      match blockNode? fuel true endsValue r.skip with
      | none => none
      | some (k, r) =>
        let value :=
          if r.isAt (· == .value) then blockNode? fuel true endsValue r.skip else some (.empty, r)
        match value with
        | none => none
        | some (v, r) => (entries? fuel r).map fun p => ((k, v) :: p.1, p.2)
    else none

/-- The items between brackets; a comma stands before each but the first. -/
def flowItems? : Nat → Bool → NodeReader → Option (List Node × NodeReader)
  | 0, _, _ => none
  | fuel + 1, isFirst, r =>
    if r.isAt (· == .flowSequenceEnd) then some ([], r.skip)
    else if !isFirst && !r.isAt (· == .flowEntry) then none
    else
      let r := if isFirst then r else r.skip
      if r.isAt (· == .flowSequenceEnd) then some ([], r.skip)
      else
        let item := if r.isAt (· == .key) then pair? fuel r.skip else node? fuel false false r
        match item with
        | none => none
        | some (n, r) => (flowItems? fuel false r).map fun p => (n :: p.1, p.2)

/-- An item that is a key with a value. Where the key is left out, a token is passed over. -/
def pair? : Nat → NodeReader → Option (Node × NodeReader)
  | 0, _ => none
  | fuel + 1, r =>
    let key :=
      if r.isAt fun t => t == .value || endsFlowItem t then some (.empty, r.skip)
      else node? fuel false false r
    match key with
    | none => none
    | some (k, r) =>
      let value :=
        if r.isAt (· == .value) then flowNode? fuel endsFlowItem r.skip else some (.empty, r)
      value.map fun p => (.mapping [(k, p.1)] none, p.2)

/-- The entries between braces; a comma stands before each but the first. -/
def flowEntries? : Nat → Bool → NodeReader → Option (List (Node × Node) × NodeReader)
  | 0, _, _ => none
  | fuel + 1, isFirst, r =>
    if r.isAt (· == .flowMappingEnd) then some ([], r.skip)
    else if !isFirst && !r.isAt (· == .flowEntry) then none
    else
      let r := if isFirst then r else r.skip
      if r.isAt (· == .flowMappingEnd) then some ([], r.skip)
      else
        match flowEntryParts? fuel r with
        | none => none
        | some (e, r) => (flowEntries? fuel false r).map fun p => (e :: p.1, p.2)

/-- A key and its value; a node without a mark for keys is a key without value. -/
def flowEntryParts? : Nat → NodeReader → Option ((Node × Node) × NodeReader)
  | 0, _ => none
  | fuel + 1, r =>
    if r.isAt (· == .key) then
      match flowNode? fuel (fun t => t == .value || endsFlowValue t) r.skip with
      | none => none
      | some (k, r) =>
        let value :=
          if r.isAt (· == .value) then flowNode? fuel endsFlowValue r.skip else some (.empty, r)
        value.map fun p => ((k, p.1), p.2)
    else (node? fuel false false r).map fun p => ((p.1, .empty), p.2)

end

/-- Only these versions are known. -/
def isKnownVersion (major minor : Nat) : Bool := major == 1 && (minor == 1 || minor == 2)

/-- The directives before a document; no version or handle may be stated twice. -/
def directives? : Bool → Handles → List Token → Option (Handles × List Token)
  | hasVersion, handles, .version major minor :: rest =>
    if hasVersion || !isKnownVersion major minor then none else directives? true handles rest
  | hasVersion, handles, .tagHandle name uri :: rest =>
    if (handles.lookup name).isSome then none
    else directives? hasVersion ((name, uri) :: handles) rest
  | _, handles, rest => some (handles, rest)

def isDirective : Token → Bool
  | .version _ _ | .tagHandle _ _ => true
  | _ => false

/-- Whether a document has nothing in it. -/
def endsDocument (t : Token) : Bool :=
  isDirective t || t == .documentStart || t == .documentEnd || t == .streamEnd

/-- One document with its marks; the first may do without. -/
def document? (fuel : Nat) (isFirst : Bool) (tokens : List Token) : Option (Node × List Token) := do
  let reader (handles : Handles) (rest : List Token) : NodeReader :=
    ⟨rest, handles ++ standardHandles, #[]⟩
  let starts := tokens.head?.any fun t => isDirective t || t == .documentStart
  let (n, r) ←
    if isFirst && !starts then node? fuel true false (reader [] tokens)
    else do
      let (handles, rest) ← directives? false [] tokens
      match rest with
      | .documentStart :: rest => blockNode? fuel false endsDocument (reader handles rest)
      | _ => none
  return (n, if r.isAt (· == .documentEnd) then r.skip.rest else r.rest)

/-- The documents up to the end. In the first edition no mark of an end may stand before them. -/
def documents? (nodeFuel : Nat) (e : Edition) : Nat → Bool → List Token → Option (List Node)
  | 0, _, _ => none
  | fuel + 1, isFirst, tokens =>
    let tokens :=
      if isFirst && e = .v11 then tokens else tokens.dropWhile (· == .documentEnd)
    if tokens.head? == some .streamEnd then some []
    else
      match document? nodeFuel isFirst tokens with
      | some (n, rest) => (documents? nodeFuel e fuel false rest).map (n :: ·)
      | none => none

end NodeReader

/--
The documents of a text. Of four calls of the reader, one inside the other, at least one takes a
token, so four calls a token are enough.
-/
def documents? (e : Edition) (cs : List Char) : Option (List Node) := do
  let tokens ← tokens? e cs
  NodeReader.documents? (4 * tokens.size + 4) e (tokens.size + 1) true tokens.toList

end RollCall.Yaml
