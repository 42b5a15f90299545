import RollCall.Message.Basic
import RollCall.Message.RecipientMap

set_option autoImplicit false

/-!
Participants of an in-process network. A participant answers a message with messages of its own,
each after a delay; a scripted one has rules and follows every rule that the message meets.
-/
namespace RollCall

structure Inbound where
  requestId : RequestId
  /-- The participant that forwarded it; nobody for a message of the coordinator. -/
  sender : Option RecipientId
  body : ReplyBody

structure Outbound where
  body : ReplyBody
  /-- Those who receive it next. -/
  forwardTo : List RecipientId
  /-- Milliseconds between the message received and this one. -/
  delay : Nat

/-- A participant; no message at all means that it stays silent. -/
abbrev Participant := Inbound → List Outbound

/-- Which messages a rule is for. -/
inductive Trigger where
  | request
  | forwardedBy (sender : RecipientId)
  | any
deriving DecidableEq, Repr

def Trigger.meets (sender : Option RecipientId) : Trigger → Bool
  | .any => true
  | .request => sender.isNone
  | .forwardedBy expected => sender == some expected

structure Rule where
  trigger : Trigger
  outbound : Outbound

namespace Participant

/-- Every rule that the message meets gives its message. -/
def scripted (rules : List Rule) : Participant := fun m =>
  (rules.filter fun r => r.trigger.meets m.sender).map Rule.outbound

/-- The answers in the order in which they are given out: by delay, and then as listed. -/
def answers (p : Participant) (m : Inbound) : List Outbound :=
  (p m).mergeSort fun a b => a.delay ≤ b.delay

end Participant

/-- The participants of a network under their names. -/
abbrev Registry := RecipientMap Participant

end RollCall
