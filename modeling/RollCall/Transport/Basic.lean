import RollCall.Transport.Playback

set_option autoImplicit false

/-!
Transports and their channels. A transport carries a request to one recipient and brings the answer
back, or opens a channel on which a request is published and messages are read until it is released.
-/
namespace RollCall

/-- An in-process network; while it is offline nothing can be sent or opened. -/
structure Network where
  registry : Registry
  offline : Bool
  openChannels : Nat
  /-- The channels that were given back, with what is left of their tasks. -/
  released : List Hub
  /-- What the wall clock shows whoever says something at a moment. -/
  wallClock : Moment → Timestamp

inductive Transport where
  | network (n : Network)
  | playback (p : Playback)

inductive Channel where
  | hub (h : Hub)
  | playback (c : PlaybackChannel)

def Channel.hub? : Channel → Option Hub
  | .hub h => some h
  | .playback _ => none

/-- One use of a transport, as it is logged. -/
inductive Call where
  | send (recipient : RecipientId) (payload : Json)
  | «open» (topic : String) (recipients : List RecipientId)
  | publish (payload : Json)
  | read (reading : Reading)
  /-- A channel was given back with so many scripted events unread. -/
  | release (unread : Nat)

namespace Network

def empty (wallClock : Moment → Timestamp) : Network :=
  ⟨RecipientMap.empty, false, 0, [], wallClock⟩

/-- The answer to a request with the time that it takes; a silent participant takes forever. -/
def answer? (n : Network) (recipient : RecipientId) (request : Request) :
    Option (Nat × Except Error ReplyBody) :=
  if n.offline then some (0, .error (.transport "transport offline"))
  else
    match n.registry.get? recipient with
    | none => some (0, .error (.transport ("unknown recipient: " ++ recipient.text)))
    | some p =>
      (p.answers ⟨request.requestId, none, .payload request.payload⟩).head?.map fun o =>
        (o.delay, .ok o.body)

def openHub (topic : String) (recipients : List RecipientId) (n : Network) :
    Except Error Hub × Network :=
  if n.offline then (.error (.transport "transport offline"), n)
  else (.ok (Hub.opened topic recipients), { n with openChannels := n.openChannels + 1 })

def release (c : Channel) (n : Network) : Network :=
  { n with
    openChannels := n.openChannels - 1
    released := (c.hub?.map Hub.close).toList ++ n.released }

/-- Runs what is due on the channels that were given back. -/
def settle (moment : Moment) (patience : Nat) (n : Network) : Network :=
  { n with released := n.released.map (·.run n.registry moment patience) }

end Network

namespace Channel

def topic : Channel → String
  | .hub h => h.topic
  | .playback c => c.topic

/-- How long publishing takes, if it ends; a network takes no time for it. -/
def publishDelay : Channel → Option Nat
  | .hub _ => some 0
  | .playback c => c.publishDelay

/-- How many scripted events have not been read. -/
def unread : Channel → Nat
  | .hub _ => 0
  | .playback c => c.events.length

/--
How often a channel is read at most by one who ignores what it gives: a script until it is used up,
a network as often as the patience allows.
-/
def allowance (patience : Nat) : Channel → Nat
  | .hub _ => patience
  | .playback c => c.events.length + 1

end Channel

namespace Transport

/-- The name of the kind of transport. -/
def label : Transport → String
  | .network _ => "in-memory"
  | .playback _ => "playback"

/-- Those who take part in a network; nobody in a playback. -/
def registry : Transport → Registry
  | .network n => n.registry
  | .playback _ => RecipientMap.empty

/-- The answer to a request with the time that it takes; without one it takes forever. -/
def answer? (recipient : RecipientId) (request : Request) :
    Transport → Option (Nat × Except Error ReplyBody) × Transport
  | .network n => (n.answer? recipient request, .network n)
  | .playback p =>
    match p.answers with
    | [] => (none, .playback p)
    | a :: rest => (some (a.delay, a.result), .playback { p with answers := rest })

/-- Opens a channel for recipients; also says how long that takes, if it ends. -/
def openChannel (topic : String) (recipients : List RecipientId) :
    Transport → Except Error Channel × Option Nat × Transport
  | .network n =>
    let (h, n) := n.openHub topic recipients
    (h.map Channel.hub, some 0, .network n)
  | .playback p =>
    let (c, ms, p) := p.openNext topic
    (c.map Channel.playback, ms, .playback p)

/-- Publishes a request on a channel. -/
def publish (t : Transport) (moment : Moment) (request : Request) :
    Channel → Except Error Channel
  | .hub h => .ok (.hub (h.publish t.registry moment request))
  | .playback c =>
    match c.publishError with
    | some e => .error e
    | none => .ok (.playback c)

def wallClock : Transport → Moment → Timestamp
  | .network n => n.wallClock
  | .playback _ => fun _ => ⟨0, 0⟩

/--
Waits for a message on a channel, at most until an instant. What somebody said on a network bears
the time at which it was said.
-/
def receive (t : Transport) (clock : Clock) (limit : Nat) : Channel → Reading × Channel × Clock
  | .hub h =>
    let (a, h, clock) := h.receive t.registry clock limit
    (a.elim .cutOff fun a => .message (a.message.reply (t.wallClock a.moment)), .hub h, clock)
  | .playback c =>
    let (r, c, clock) := c.receive clock limit
    (r, .playback c, clock)

def release (c : Channel) : Transport → Transport
  | .network n => .network (n.release c)
  | .playback p => .playback p

/-- The channels of a network that were given back. -/
def released : Transport → List Hub
  | .network n => n.released
  | .playback _ => []

def settle (moment : Moment) (patience : Nat) : Transport → Transport
  | .network n => .network (n.settle moment patience)
  | .playback p => .playback p

end Transport

end RollCall
