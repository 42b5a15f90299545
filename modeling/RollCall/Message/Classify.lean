import RollCall.Error
import RollCall.Message.Basic

set_option autoImplicit false

/-!
What a reply says. Text is looked for in the shapes that participants commonly reply with: a
string, a list of parts, or an object with `text`, `content`, `parts` or `message`.
-/
namespace RollCall

inductive Extracted where
  | text (s : String)
  | noText
  | unrecognized
deriving DecidableEq, Repr

namespace Extracted

/-- Text counts only when it is not blank. -/
def ofString (s : String) : Extracted := if Text.isBlank s then .noText else .text s

/-- Several texts make one of as many lines. -/
def ofTexts : List String → Extracted
  | [] => .noText
  | texts => .text ("\n".intercalate texts)

mutual

/--
A string is its own text and a list has the texts of its items. An object takes the first that
applies of a string under `text`, a string under `content`, a list under `parts`, and what its
`message` holds.
-/
def ofJson : Json → Extracted
  | .string s => ofString s
  | .array items => ofTexts (textsOf items)
  | .object fields =>
    match Json.lookup "text" fields, Json.lookup "content" fields with
    | some (.string s), _ => ofString s
    | _, some (.string s) => ofString s
    | _, _ =>
      match ofParts fields with
      | some e => e
      | none =>
        match ofMessage fields with
        | some e => e
        | none => .unrecognized
  | _ => .unrecognized

/-- The texts of those items that have one. -/
def textsOf : List Json → List String
  | [] => []
  | v :: rest =>
    match ofJson v with
    | .text s => s :: textsOf rest
    | _ => textsOf rest

def ofParts : List (String × Json) → Option Extracted
  | [] => none
  | (k, v) :: rest =>
    if k = "parts" then
      match v with
      | .array items => some (ofTexts (textsOf items))
      | _ => none
    else ofParts rest

def ofMessage : List (String × Json) → Option Extracted
  | [] => none
  | (k, v) :: rest => if k = "message" then some (ofJson v) else ofMessage rest

end

end Extracted

/-- How many characters of an unrecognized payload are quoted. -/
def shownCharacters : Nat := 120

namespace ReplyBody

/-- The text of a body, if it carries one. -/
def text? : ReplyBody → Option String
  | .payload v =>
    match Extracted.ofJson v with
    | .text s => some s
    | _ => none
  | _ => none

/-- The answer in a body, or the failure that it stands for. -/
def classify : ReplyBody → Except RemoteError String
  | .rejected reason => .error ⟨.remoteRejected, reason⟩
  | .empty => .error ⟨.malformedReply, "reply carried neither a payload nor an error"⟩
  | .payload v =>
    match Extracted.ofJson v with
    | .text s => .ok s
    | .noText => .error ⟨.emptyReply, "reply contained no text content"⟩
    | .unrecognized =>
      .error ⟨.malformedReply,
        "unrecognized reply shape: " ++ String.ofList (v.print.take shownCharacters)⟩

/-- The text that a marker is looked for in: the text carried, or else the whole body. -/
def hopText (b : ReplyBody) : String := b.text?.getD b.render

end ReplyBody

end RollCall
