import RollCall.Coordinator
import RollCall.Relay.Result

set_option autoImplicit false

/-!
Relays. The request is published to the seeds, who pass work on among themselves; the coordinator
only reads the channel, until a message holds the marker, the deadline comes or the channel fails.
-/
namespace RollCall

/-- What the caller of a relay got wrong, if anything. -/
def relayRefusal? (seeds : List RecipientId) (payload : Json) (marker : String) (deadline : Nat) :
    Option Refusal :=
  if seeds.isEmpty then some .noSeeds
  else if seeds.any RecipientId.isBlank then some .blankSeed
  else if deadline = 0 then some .zeroDeadline
  else if marker.isEmpty then some .emptyMarker
  else if payload.isEmptyPayload then some .emptyPayload
  else none

/-- Whether a text has another within it. -/
def holds (marker : List Char) : List Char → Bool
  | [] => marker.isEmpty
  | c :: cs => marker.isPrefixOf (c :: cs) || holds marker cs

structure Watch where
  coordinator : Coordinator
  requestId : RequestId
  marker : String
  /-- The instant at which waiting ends. -/
  deadline : Nat
  /-- When the last message was seen, or the request published. -/
  since : Timestamp
  /-- The messages seen. -/
  hops : List Reply
  terminal : Option String
  notes : List String

/-- The text of a fault when a relay sets out. -/
def World.ConnectFault.relayText (topic : String) (f : World.ConnectFault) : String :=
  let e := match f with
    | .notOpened e => e
    | .notPublished e => e
  "relay on " ++ topic ++ " failed to start: " ++ e.message

namespace Watch

/-- Records a message as a step that began with the message before it. -/
def see (s : Watch) (r : Reply) (w : World) : Watch × World :=
  let record := s.coordinator.recorder.recordStep s.requestId r.sender.text s.since
    (!r.body.isRejected)
  let (_, w) := w.record record
  let (since, w) := w.wallClock
  let text := r.body.hopText
  ({ s with
      since := since
      hops := s.hops ++ [r]
      terminal := if holds s.marker.toList text.toList then some text else none }, w)

/-- Reads on until the marker is seen, at most so many times. -/
def readOn : Nat → Channel → Watch → World → Channel × Watch × World
  | 0, c, s, w => (c, s, w)
  | allowance + 1, c, s, w =>
    if s.deadline ≤ w.now then (c, s, w)
    else
      let (reading, c, w) := w.receive c s.deadline
      match reading with
      | .cutOff => (c, s, w)
      | .nothing => readOn allowance c s w
      | .failed e => (c, { s with notes := s.notes ++ ["channel read failed: " ++ e.message] }, w)
      | .message r =>
        let (s, w) := s.see r w
        if s.terminal.isSome then (c, s, w) else readOn allowance c s w

/-- What came of it, after so many milliseconds. -/
def result (s : Watch) (elapsed : Nat) : RelayResult :=
  { requestId := s.requestId
    terminalPayload := s.terminal
    observedHops := s.hops
    timedOut := s.terminal.isNone
    elapsed := Span.ofMillis (UInt64.ofNat elapsed)
    notes := s.notes }

end Watch

namespace Coordinator

/--
Publishes a payload to the seeds and watches for the marker. The deadline is meant to lie on the
platform's clock, as that of a fan-out.
-/
def relay (c : Coordinator) (seeds : List RecipientId) (payload : Json) (marker : String)
    (deadline : Nat) (w : World) : Except Error RelayResult × World :=
  match relayRefusal? seeds payload marker deadline with
  | some r => (.error (Error.ofRefusal r), w)
  | none =>
    let started := w.now
    let (request, w) := w.newRequest payload
    let id := request.requestId
    let (steps, w) := c.startSteps id [c.label] w
    let step := steps.head?.join
    let topic := c.topic "relay" id
    match w.connect topic seeds request with
    | (.error f, w) =>
      let s : Watch :=
        ⟨c, id, marker, started + deadline, w.clock.reading, [], none, [f.relayText topic]⟩
      (.ok (s.result (w.now - started)), c.endStep id step false w)
    | (.ok channel, w) =>
      let (since, w) := w.wallClock
      let s : Watch := ⟨c, id, marker, started + deadline, since, [], none, []⟩
      let (channel, s, w) := Watch.readOn (channel.allowance w.patience) channel s w
      let w := w.release channel
      (.ok (s.result (w.now - started)), c.endStep id step s.terminal.isSome w)

end Coordinator

end RollCall
