import RollCall.Message.RecipientMap
import RollCall.Wire.Message

set_option autoImplicit false

/-!
What a broadcast came to: who answered with what, who failed how, and who is missing.
-/
namespace RollCall

structure BroadcastOutcome where
  requestId : RequestId
  succeeded : RecipientMap String
  failed : RecipientMap RemoteError
  missing : RecipientSet

namespace BroadcastOutcome

def empty (id : RequestId) : BroadcastOutcome :=
  ⟨id, RecipientMap.empty, RecipientMap.empty, RecipientMap.empty⟩

def isComplete (o : BroadcastOutcome) : Bool := o.failed.isEmpty && o.missing.isEmpty

/-- The number of recipients, as often as they are listed. -/
def size (o : BroadcastOutcome) : Nat := o.succeeded.size + o.failed.size + o.missing.size

def isEmpty (o : BroadcastOutcome) : Bool := o.size == 0

/-- All recipients listed, in the order of their names. -/
def recipients (o : BroadcastOutcome) : List RecipientId :=
  (RecipientSet.ofRecipients (o.succeeded.keys ++ o.failed.keys ++ o.missing.keys)).keys

/-- One line for each recipient: the answers, then the failures, then the missing. -/
def text (o : BroadcastOutcome) : String :=
  String.join (o.succeeded.entries.map fun e => e.1.text ++ ": " ++ e.2 ++ "\n") ++
    String.join (o.failed.entries.map fun e => e.1.text ++ ": failed (" ++ e.2.message ++ ")\n") ++
    String.join (o.missing.keys.map fun r => r.text ++ ": no response — may be unavailable\n")

def toJson (o : BroadcastOutcome) : Json :=
  .object
    [("failed", .object (o.failed.entries.map fun e => (e.1.text, e.2.toJson))),
      ("missing", .array (o.missing.keys.map RecipientId.toJson)),
      ("request_id", o.requestId.toJson),
      ("succeeded", .object (o.succeeded.entries.map fun e => (e.1.text, .string e.2)))]

/-- A map from recipients, whose names are the keys of an object. -/
def map? {α : Type} (decode : Json → Option α) : Json → Option (RecipientMap α)
  | .object fields =>
    (Wire.each? (fun f : String × Json => (decode f.2).map fun a => (RecipientId.mk f.1, a))
      fields).map RecipientMap.ofList
  | _ => none

def ofJson? (v : Json) : Option BroadcastOutcome :=
  match Wire.slots? ["request_id", "succeeded", "failed", "missing"] v with
  | some [id, succeeded, failed, missing] => do
    let id ← Wire.required RequestId.ofJson? id
    let succeeded ← Wire.required (map? Wire.string?) succeeded
    let failed ← Wire.required (map? RemoteError.ofJson?) failed
    let missing ← Wire.required (Wire.list? RecipientId.ofJson?) missing
    return ⟨id, succeeded, failed, RecipientSet.ofRecipients missing⟩
  | _ => none

end BroadcastOutcome

end RollCall
