import RollCall.Proofs.Recording

set_option autoImplicit false

/-!
Worlds that are alike in all but their traces: the same transport, used in the same way so far, at
the same moment. What the transport does is the same in both.
-/
namespace RollCall

namespace Clock

theorem moment_waitUntil_congr {c d : Clock} (same : d.moment = c.moment) (t : Nat) :
    (d.waitUntil t).moment = (c.waitUntil t).moment := by
  have now : d.now = c.now := congrArg Moment.ms same
  unfold waitUntil
  rw [now]
  split
  · exact same
  · rfl

theorem moment_wait_congr {c d : Clock} (same : d.moment = c.moment) (ms : Nat) :
    (d.wait ms).moment = (c.wait ms).moment := by
  have now : d.now = c.now := congrArg Moment.ms same
  unfold wait
  rw [now]
  exact moment_waitUntil_congr same _

theorem moment_waitFor_congr {c d : Clock} (same : d.moment = c.moment) (m : Moment) :
    (d.waitFor m).moment = (c.waitFor m).moment := by
  unfold waitFor
  rw [same]
  split
  · exact same
  · rfl

end Clock

/-- What comes on a channel depends on the moment alone. -/
theorem Transport.receive_congr (t : Transport) {c d : Clock} (same : d.moment = c.moment)
    (limit : Nat) (ch : Channel) :
    (t.receive d limit ch).1 = (t.receive c limit ch).1 ∧
      (t.receive d limit ch).2.1 = (t.receive c limit ch).2.1 ∧
      (t.receive d limit ch).2.2.moment = (t.receive c limit ch).2.2.moment := by
  have now : d.now = c.now := congrArg Moment.ms same
  cases ch with
  | hub h =>
    simp only [receive, Hub.receive, same]
    split
    · exact ⟨rfl, rfl, Clock.moment_waitFor_congr same _⟩
    · exact ⟨rfl, rfl, Clock.moment_waitUntil_congr same _⟩
  | playback script =>
    simp only [receive, PlaybackChannel.receive, now]
    split
    · exact ⟨rfl, rfl, Clock.moment_waitUntil_congr same _⟩
    · split
      · exact ⟨rfl, rfl, Clock.moment_wait_congr same _⟩
      · exact ⟨rfl, rfl, Clock.moment_waitUntil_congr same _⟩

/--
How long it takes until a request is on a channel or has failed to get there, if that ever comes. A
channel that cannot be opened is not published on.
-/
def ScriptedChannel.setup? (c : ScriptedChannel) : Option Nat :=
  c.openDelay.bind fun ms =>
    if c.openError.isSome then some ms else c.publishDelay.map (ms + ·)

def Transport.setup? : Transport → Option Nat
  | .network _ => some 0
  | .playback p => p.channels.head?.elim (some 0) ScriptedChannel.setup?

theorem Transport.setup?_eq (topic : String) (recipients : List RecipientId) (t : Transport) :
    t.setup? =
      match (t.openChannel topic recipients).1 with
      | .error _ => (t.openChannel topic recipients).2.1
      | .ok ch => (t.openChannel topic recipients).2.1.bind fun ms =>
          ch.publishDelay.map (ms + ·) := by
  cases t with
  | network n =>
    obtain ⟨registry, offline, openChannels⟩ := n
    cases offline <;> rfl
  | playback p =>
    obtain ⟨answers, channels⟩ := p
    cases channels with
    | nil => rfl
    | cons c rest =>
      obtain ⟨openDelay, openError, publishDelay, publishError, events⟩ := c
      cases openError with
      | none => rfl
      | some e =>
        cases openDelay <;> rfl

namespace World

/-- From one world to another a delay has passed, or the caller is stuck. -/
structure Takes (delay : Option Nat) (w w' : World) : Prop where
  waits : ∃ ms, w'.journal = w.journal.wait ms
  ended : ∀ ms, delay = some ms → w'.journal = w.journal.wait ms ∧ w'.stuck = w.stuck
  never : delay = none → w'.stuck = true

variable {u v w : World}

theorem takes_await (delay : Option Nat) (journal : v.journal = w.journal)
    (stuck : v.stuck = w.stuck) : Takes delay w (v.await delay) := by
  cases delay with
  | none =>
    have still : v.journal = w.journal.wait 0 := by rw [journal, Journal.wait, Clock.wait_zero]
    exact ⟨⟨0, still⟩, nofun, fun _ => rfl⟩
  | some ms =>
    have waited : (v.await (some ms)).journal = w.journal.wait ms := congrArg (·.wait ms) journal
    refine ⟨⟨ms, waited⟩, ?_, nofun⟩
    intro ms' same
    cases same
    exact ⟨waited, stuck⟩

theorem Takes.trans {d e : Option Nat} (first : Takes d u v) (second : Takes e v w) :
    Takes (d.bind fun ms => e.map (ms + ·)) u w := by
  have both {m n : Nat} (begun : v.journal = u.journal.wait m)
      (ended : w.journal = v.journal.wait n) : w.journal = u.journal.wait (m + n) := by
    rw [ended, begun]
    simp only [Journal.wait, Clock.wait_wait]
  obtain ⟨m, begun⟩ := first.waits
  obtain ⟨n, ended⟩ := second.waits
  refine ⟨⟨m + n, both begun ended⟩, ?_, ?_⟩
  · intro ms whole
    cases d with
    | none => cases whole
    | some m =>
      cases e with
      | none => cases whole
      | some n =>
        cases whole
        obtain ⟨begun, same⟩ := first.ended m rfl
        obtain ⟨ended, still⟩ := second.ended n rfl
        exact ⟨both begun ended, still.trans same⟩
  · intro never
    cases e with
    | none => exact second.never rfl
    | some n =>
      cases d with
      | some m => cases never
      | none => exact (second.ended n rfl).2.trans (first.never rfl)

/-- Whether it succeeds or not, putting a request on a channel takes what the transport takes. -/
theorem takes_connect (topic : String) (recipients : List RecipientId) (request : Request)
    (w : World) : Takes w.transport.setup? w (w.connect topic recipients request).2 := by
  have opened : Takes (w.transport.openChannel topic recipients).2.1 w
      (w.openChannel topic recipients).2 := takes_await _ rfl rfl
  have setup := w.transport.setup?_eq topic recipients
  have channel : (w.openChannel topic recipients).1 =
      (w.transport.openChannel topic recipients).1 := rfl
  rw [setup, ← channel]
  unfold connect
  generalize (w.transport.openChannel topic recipients).2.1 = delay at opened ⊢
  generalize w.openChannel topic recipients = a at opened ⊢
  obtain ⟨outcome, v⟩ := a
  cases outcome with
  | error e => exact opened
  | ok ch =>
    have published : Takes ch.publishDelay v (v.publish request ch).2 :=
      takes_await _ rfl rfl
    dsimp only at opened ⊢
    generalize v.publish request ch = b at published ⊢
    obtain ⟨outcome, u⟩ := b
    cases outcome with
    | error e => exact opened.trans ⟨published.waits, published.ended, published.never⟩
    | ok ch' => exact opened.trans published

theorem Takes.now {delay : Option Nat} {ms : Nat} (takes : Takes delay w v)
    (ended : delay = some ms) : v.now = w.now + ms := by
  unfold World.now clock
  rw [(takes.ended ms ended).1]
  exact Clock.now_wait _ _

theorem Takes.isPrompt {r : Recorder} {delay : Option Nat} (takes : Takes delay w v)
    (prompt : r.IsPrompt w.journal) : r.IsPrompt v.journal := by
  obtain ⟨ms, waited⟩ := takes.waits
  rw [waited]
  exact prompt

/-- The same but for the traces and the readings of the wall clock. -/
structure Alike (w v : World) : Prop where
  transport : v.transport = w.transport
  calls : v.calls = w.calls
  requestCount : v.requestCount = w.requestCount
  patience : v.patience = w.patience
  stuck : v.stuck = w.stuck
  moment : v.clock.moment = w.clock.moment

namespace Alike

variable {u v w : World}

theorem symm (alike : w.Alike v) : v.Alike w :=
  ⟨alike.transport.symm, alike.calls.symm, alike.requestCount.symm, alike.patience.symm,
    alike.stuck.symm, alike.moment.symm⟩

theorem trans (first : u.Alike v) (second : v.Alike w) : u.Alike w :=
  ⟨second.transport.trans first.transport, second.calls.trans first.calls,
    second.requestCount.trans first.requestCount, second.patience.trans first.patience,
    second.stuck.trans first.stuck, second.moment.trans first.moment⟩

theorem now (alike : w.Alike v) : v.now = w.now := congrArg Moment.ms alike.moment

/-- What changes the journal alone, and takes no time. -/
theorem of_journal {w : World} {j : Journal} (moment : j.clock.moment = w.clock.moment) :
    w.Alike { w with journal := j } := ⟨rfl, rfl, rfl, rfl, rfl, moment⟩

theorem log (alike : w.Alike v) (c : Call) : (w.log c).Alike (v.log c) :=
  ⟨alike.transport, congrArg (c :: ·) alike.calls, alike.requestCount, alike.patience,
    alike.stuck, alike.moment⟩

theorem await (alike : w.Alike v) (delay : Option Nat) : (w.await delay).Alike (v.await delay) := by
  cases delay with
  | none =>
    exact ⟨alike.transport, alike.calls, alike.requestCount, alike.patience, rfl, alike.moment⟩
  | some ms =>
    exact ⟨alike.transport, alike.calls, alike.requestCount, alike.patience, alike.stuck,
      Clock.moment_wait_congr alike.moment ms⟩

theorem newRequest (alike : w.Alike v) (payload : Json) :
    (v.newRequest payload).1 = (w.newRequest payload).1 ∧
      (w.newRequest payload).2.Alike (v.newRequest payload).2 := by
  have request : (v.newRequest payload).1 = (w.newRequest payload).1 := by
    simp only [World.newRequest, alike.requestCount]
  exact ⟨request, alike.transport, alike.calls, congrArg (· + 1) alike.requestCount,
    alike.patience, alike.stuck, alike.moment⟩

theorem release (alike : w.Alike v) (c : Channel) : (w.release c).Alike (v.release c) :=
  ⟨congrArg (Transport.release c) alike.transport, (alike.log (.release c.unread)).calls,
    alike.requestCount, alike.patience, alike.stuck, alike.moment⟩

theorem receive (alike : w.Alike v) (c : Channel) (limit : Nat) :
    (v.receive c limit).1 = (w.receive c limit).1 ∧
      (v.receive c limit).2.1 = (w.receive c limit).2.1 ∧
      (w.receive c limit).2.2.Alike (v.receive c limit).2.2 := by
  obtain ⟨reading, channel, moment⟩ := w.transport.receive_congr alike.moment limit c
  have calls : Call.read (w.transport.receive v.clock limit c).1 :: v.calls =
      Call.read (w.transport.receive w.clock limit c).1 :: w.calls := by
    rw [reading, alike.calls]
  unfold World.receive
  rw [alike.transport]
  exact ⟨reading, channel, alike.transport, calls, alike.requestCount, alike.patience,
    alike.stuck, moment⟩

theorem openChannel (alike : w.Alike v) (topic : String) (recipients : List RecipientId) :
    (v.openChannel topic recipients).1 = (w.openChannel topic recipients).1 ∧
      (w.openChannel topic recipients).2.Alike (v.openChannel topic recipients).2 := by
  have calls := (alike.log (.open topic recipients)).calls
  unfold World.openChannel
  rw [alike.transport]
  refine ⟨rfl, await ?_ _⟩
  exact ⟨rfl, calls, alike.requestCount, alike.patience, alike.stuck, alike.moment⟩

theorem publish (alike : w.Alike v) (request : Request) (c : Channel) :
    (v.publish request c).1 = (w.publish request c).1 ∧
      (w.publish request c).2.Alike (v.publish request c).2 := by
  unfold World.publish
  rw [alike.transport, alike.moment]
  exact ⟨rfl, (alike.log (.publish request.payload)).await _⟩

theorem connect (alike : w.Alike v) (topic : String) (recipients : List RecipientId)
    (request : Request) :
    (v.connect topic recipients request).1 = (w.connect topic recipients request).1 ∧
      (w.connect topic recipients request).2.Alike (v.connect topic recipients request).2 := by
  unfold World.connect
  obtain ⟨same, opened⟩ := alike.openChannel topic recipients
  generalize w.openChannel topic recipients = a at same opened ⊢
  generalize v.openChannel topic recipients = b at same opened ⊢
  obtain ⟨channel, w₁⟩ := a
  obtain ⟨channel', v₁⟩ := b
  obtain rfl : channel' = channel := same
  cases channel' with
  | error e => exact ⟨rfl, opened⟩
  | ok c =>
    obtain ⟨same, published⟩ := opened.publish request c
    dsimp only at same published ⊢
    generalize w₁.publish request c = a at same published ⊢
    generalize v₁.publish request c = b at same published ⊢
    obtain ⟨outcome, w₂⟩ := a
    obtain ⟨outcome', v₂⟩ := b
    obtain rfl : outcome' = outcome := same
    cases outcome' with
    | error e => exact ⟨rfl, published.release c⟩
    | ok c' => exact ⟨rfl, published⟩

end Alike

end World

end RollCall
