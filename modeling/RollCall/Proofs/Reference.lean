import RollCall.Proofs.Alike
import RollCall.Proofs.Playback

set_option autoImplicit false

/-!
What a broadcast over a script must come to, recipient by recipient. Nothing but the first reply of
each recipient matters, and nothing is read once all have been heard.
-/
namespace RollCall

namespace BroadcastOutcome

/-- The outcome when these are the replies that were handed out. -/
structure Reflects (o : BroadcastOutcome) (rs : List RecipientId) (ms : List Message) : Prop where
  succeeded : ∀ r text, o.succeeded.get? r = some text ↔
    r ∈ rs ∧ ∃ m, firstReply? ms r = some m ∧ m.body.classify = .ok text
  failed : ∀ r e, o.failed.get? r = some e ↔
    r ∈ rs ∧ ∃ m, firstReply? ms r = some m ∧ m.body.classify = .error e
  missing : ∀ r, r ∈ o.missing.keys ↔ r ∈ rs ∧ ∀ m ∈ ms, m.sender ≠ r

/-- The outcome when the request was never on a channel. -/
structure AllFailed (o : BroadcastOutcome) (rs : List RecipientId) (e : RemoteError) : Prop where
  succeeded : o.succeeded.keys = []
  failed : ∀ r, o.failed.get? r = if r ∈ rs then some e else none
  missing : o.missing.keys = []

/-- Two lists of replies with the same first reply of each recipient have one outcome. -/
theorem Reflects.congr {o o' : BroadcastOutcome} {rs : List RecipientId} {ms ns : List Message}
    (reflects : o.Reflects rs ms) (reflects' : o'.Reflects rs ns)
    (same : ∀ r ∈ rs, firstReply? ns r = firstReply? ms r) :
    o'.succeeded = o.succeeded ∧ o'.failed = o.failed ∧ o'.missing = o.missing := by
  refine ⟨?_, ?_, ?_⟩
  · apply RecipientMap.ext_get?
    intro r
    apply Option.ext
    intro text
    rw [reflects.succeeded, reflects'.succeeded]
    apply and_congr_right
    intro member
    rw [same r member]
  · apply RecipientMap.ext_get?
    intro r
    apply Option.ext
    intro e
    rw [reflects.failed, reflects'.failed]
    apply and_congr_right
    intro member
    rw [same r member]
  · have listed : ∀ r, r ∈ o'.missing.keys ↔ r ∈ o.missing.keys := by
      intro r
      rw [reflects.missing, reflects'.missing, ← firstReply?_eq_none_iff,
        ← firstReply?_eq_none_iff]
      apply and_congr_right
      intro member
      rw [same r member]
    apply RecipientMap.ext_get?
    intro r
    apply Option.ext
    intro u
    cases u
    have kept (s : RecipientSet) : r ∈ s.keys ↔ s.get? r = some () := by
      rw [RecipientMap.mem_keys_iff]
      exact ⟨fun ⟨_, found⟩ => found, fun found => ⟨(), found⟩⟩
    rw [← kept, ← kept]
    exact listed r

theorem reflects_ofReports {id : RequestId} {reports : List Resolution}
    {rs missing : List RecipientId} {ms : List Message}
    (replies : reports = (firstReplies (distinct rs) ms).map Resolution.ofMessage)
    (once : (reports.map Resolution.sender).Nodup)
    (left : missing = (distinct rs).filter (· ∉ reports.map Resolution.sender)) :
    (ofReports id reports missing).Reflects rs ms := by
  have reported (r : RecipientId) (result : Except RemoteError String) :
      ⟨r, result⟩ ∈ reports ↔
        r ∈ rs ∧ ∃ m, firstReply? ms r = some m ∧ m.body.classify = result := by
    rw [replies, List.mem_map]
    constructor
    · intro listed
      obtain ⟨m, first, same⟩ := listed
      cases same
      obtain ⟨owed, found⟩ := mem_firstReplies_iff.1 first
      exact ⟨(mem_distinct _ _).1 owed, m, found, rfl⟩
    · intro replied
      obtain ⟨member, m, found, rfl⟩ := replied
      have sent := (firstReply?_eq_some found).2
      subst sent
      exact ⟨m, mem_firstReplies_iff.2 ⟨(mem_distinct _ _).2 member, found⟩, rfl⟩
  refine ⟨?_, ?_, ?_⟩
  · intro r text
    rw [(get?_ofReports once r).1, reported]
  · intro r e
    rw [(get?_ofReports once r).2, reported]
  · intro r
    rw [mem_missing_ofReports, left, List.mem_filter, mem_distinct, decide_eq_true_iff,
      ← firstReply?_eq_none_iff]
    apply and_congr_right
    intro member
    constructor
    · intro silent
      rw [Option.eq_none_iff_forall_ne_some]
      intro n found
      exact silent (List.mem_map_of_mem (f := Resolution.sender)
        ((reported r n.body.classify).2 ⟨member, n, found, rfl⟩))
    · intro silent report
      obtain ⟨⟨sender, result⟩, handed, rfl⟩ := List.mem_map.1 report
      obtain ⟨-, n, found, -⟩ := (reported sender result).1 handed
      simp [silent] at found

theorem allFailed_ofReports {id : RequestId} {failure : String} (rs : List RecipientId) :
    (ofReports id ((distinct rs).map (Resolution.refused failure)) []).AllFailed rs
      ⟨.transportFailure, failure⟩ := by
  have senders : ((distinct rs).map (Resolution.refused failure)).map Resolution.sender =
      distinct rs := by
    rw [List.map_map]
    exact List.map_id _
  have once : (((distinct rs).map (Resolution.refused failure)).map Resolution.sender).Nodup := by
    rw [senders]
    exact distinct_nodup rs
  refine ⟨?_, ?_, rfl⟩
  · rw [List.eq_nil_iff_forall_not_mem]
    intro r answered
    obtain ⟨text, reported⟩ := (mem_succeeded_ofReports once r).1 answered
    obtain ⟨q, -, same⟩ := List.mem_map.1 reported
    cases same
  · intro r
    apply Option.ext
    intro e
    rw [(get?_ofReports once r).2, List.mem_map]
    by_cases member : r ∈ rs
    · simp [Resolution.refused, member, eq_comm]
    · simp [Resolution.refused, member]

end BroadcastOutcome

namespace World

variable {w : World} {p : Playback} (topic : String) (recipients : List RecipientId)
  (request : Request)

theorem connect_of_no_events (scripted : w.transport = .playback p) (events : p.events? = none) :
    ∃ fault, (w.connect topic recipients request).1 = .error fault := by
  obtain ⟨answers, channels⟩ := p
  cases channels with
  | nil => exact ⟨_, by simp only [connect, openChannel, scripted]; rfl⟩
  | cons c rest =>
    obtain ⟨openDelay, openError, publishDelay, publishError, script⟩ := c
    cases openError with
    | some e => exact ⟨_, by simp only [connect, openChannel, scripted]; rfl⟩
    | none =>
      cases publishError with
      | some e => exact ⟨.notPublished e, by simp only [connect, openChannel, scripted]; rfl⟩
      | none => cases events

/-- A channel is opened and takes the request, however long that takes. -/
theorem connect_of_script (scripted : w.transport = .playback p) {events : List ScriptedEvent}
    (listed : p.events? = some events) :
    ∃ script, (w.connect topic recipients request).1 = .ok (.playback script) ∧
      script.events = events ∧
      ∃ q, (w.connect topic recipients request).2.transport = .playback q := by
  obtain ⟨answers, channels⟩ := p
  cases channels with
  | nil => cases listed
  | cons c rest =>
    obtain ⟨openDelay, openError, publishDelay, publishError, script⟩ := c
    cases openError with
    | some e => cases listed
    | none =>
      cases publishError with
      | some e => cases listed
      | none =>
        cases listed
        refine ⟨⟨topic, publishDelay, none, script⟩, ?_, rfl, ⟨answers, rest⟩, ?_⟩
        · simp only [connect, openChannel, scripted]
          rfl
        · simp only [connect, openChannel, scripted]
          exact (transport_await _ _).trans (transport_await _ _)

/-- A channel that takes the request at once is there at the same instant. -/
theorem connect_of_events (scripted : w.transport = .playback p) {events : List ScriptedEvent}
    (listed : p.events? = some events) (quick : ∀ c ∈ p.channels.head?, c.setup? = some 0) :
    ∃ script, (w.connect topic recipients request).1 = .ok (.playback script) ∧
      script.events = events ∧ (w.connect topic recipients request).2.journal = w.journal ∧
      ∃ q, (w.connect topic recipients request).2.transport = .playback q := by
  obtain ⟨script, connected, same, transport⟩ :=
    w.connect_of_script topic recipients request scripted listed
  refine ⟨script, connected, same, ?_, transport⟩
  have atOnce : w.transport.setup? = some 0 := by
    rw [scripted, Transport.setup?]
    cases first : p.channels.head? with
    | none => rfl
    | some c => exact quick c first
  rw [((w.takes_connect topic recipients request).ended 0 atOnce).1]
  exact congrArg (fun k => { w.journal with clock := k }) (Clock.wait_zero w.clock)

end World

namespace FanOut

variable {w : World} {p : Playback} (c : Coordinator) (rs : List RecipientId) (request : Request)
  (wait : Nat)

theorem setupFailure_start_of_no_events (scripted : w.transport = .playback p)
    (events : p.events? = none) :
    ∃ failure, (start c rs request wait w).1.setupFailure = some failure := by
  obtain ⟨fault, connected⟩ :=
    w.connect_of_no_events (c.topic "broadcast" request.requestId) rs request scripted events
  refine ⟨fault.broadcastText (c.topic "broadcast" request.requestId), ?_⟩
  simp only [start, connected]

/-- A fan-out that has set out on a script has all of its messages before it. -/
theorem listens_start (scripted : w.transport = .playback p) {events : List ScriptedEvent}
    (listed : p.events? = some events) (quick : ∀ ch ∈ p.channels.head?, ch.setup? = some 0)
    (prompt : c.recorder.IsPrompt w.journal) (apart : w.now + wait ∉ Playback.times w.now events) :
    Listens (start c rs request wait w).1 (start c rs request wait w).2 ∧
      outstanding (start c rs request wait w).1 (start c rs request wait w).2 =
        Playback.repliesBefore (w.now + wait) w.now events := by
  obtain ⟨script, connected, rfl, journal, q, transport⟩ :=
    w.connect_of_events (c.topic "broadcast" request.requestId) rs request scripted listed quick
  have timeless := c.startSteps_timeless request.requestId (c.label :: rs.map RecipientId.text)
    (w.connect (c.topic "broadcast" request.requestId) rs request).2
  rw [journal] at timeless
  obtain ⟨promptLater, moment⟩ := timeless prompt
  have now : (start c rs request wait w).2.now = w.now := congrArg Moment.ms moment
  have channel : (start c rs request wait w).1.channel = .some (.playback script) := by
    simp only [start, connected]
    rfl
  have deadline : (start c rs request wait w).1.deadline = w.now + wait := rfl
  refine ⟨⟨?_, promptLater, ⟨q, transport⟩, ?_⟩, ?_⟩
  · simp only [start, connected]
  · intro ch held
    rw [channel] at held
    cases held
    refine ⟨script, rfl, fun _ => ?_⟩
    rw [now, deadline]
    exact apart
  · unfold outstanding
    rw [channel, now, deadline]

end FanOut

namespace Coordinator

variable (c : Coordinator) {recipients : List RecipientId} {payload : Json} {deadline : Nat}

/-- A broadcast that was never on a channel. -/
theorem broadcast_of_refused {w w' : World} {f : FanOut} {failure : String}
    (accepted : broadcastRefusal? recipients payload deadline = none)
    (started : c.setOut recipients payload deadline w = (f, w'))
    (setup : f.setupFailure = some failure) :
    ∃ o log, (c.broadcast recipients payload deadline w).1 = .ok o ∧
      (c.broadcast recipients payload deadline w).2.calls = log.reverse ++ w.calls ∧
      Call.readings log = [] ∧ o.AllFailed recipients ⟨.transportFailure, failure⟩ := by
  obtain ⟨all, enough⟩ := missing_lt_slots c started
  have once : f.missing.Nodup := all ▸ distinct_nodup recipients
  rcases gathered : f.gather (f.slots.length + 1) w' with ⟨reports, f', w''⟩
  obtain ⟨log, run⟩ := FanOut.gather_run (f.slots.length + 1) f w'
  rw [gathered] at run
  obtain ⟨silent, -⟩ := run.refusals setup once
  obtain ⟨refused, done⟩ := FanOut.gather_refused setup once enough gathered
  obtain ⟨whole, calls, readings⟩ := FanOut.calls_throughout started run
  rw [broadcast_eq c w accepted started gathered, refused, done, all]
  exact ⟨_, whole, rfl, calls, by rw [readings, silent]; rfl,
    BroadcastOutcome.allFailed_ofReports recipients⟩

/-- A broadcast that listens to a script. -/
theorem broadcast_of_listens {w w' : World} {f : FanOut}
    (accepted : broadcastRefusal? recipients payload deadline = none)
    (started : c.setOut recipients payload deadline w = (f, w')) (listens : f.Listens w') :
    ∃ o log, (c.broadcast recipients payload deadline w).1 = .ok o ∧
      (c.broadcast recipients payload deadline w).2.calls = log.reverse ++ w.calls ∧
      o.Reflects recipients (f.outstanding w') ∧
      Reading.messages (Call.readings log) <+: f.outstanding w' ∧
      ∀ before reading after, Call.readings log = before ++ reading :: after →
        ∃ r ∈ recipients, ∀ m ∈ Reading.messages before, m.sender ≠ r := by
  obtain ⟨all, enough⟩ := missing_lt_slots c started
  rcases gathered : f.gather (f.slots.length + 1) w' with ⟨reports, f', w''⟩
  obtain ⟨log, run, handed, replies⟩ := listens.gathered enough gathered
  obtain ⟨whole, calls, readings⟩ := FanOut.calls_throughout started run
  obtain ⟨once, -, left⟩ := run.missing
  rw [all] at replies left
  rw [broadcast_eq c w accepted started gathered]
  refine ⟨_, whole, rfl, calls, BroadcastOutcome.reflects_ofReports replies once left, ?_, ?_⟩
  · rw [readings]
    exact handed
  · intro before reading after split
    rw [readings] at split
    obtain ⟨r, owed, silent⟩ := run.attentive listens.setup split
    rw [all, mem_distinct] at owed
    exact ⟨r, owed, silent⟩

/--
A broadcast over a script and a store that takes no time. If the channel does not open or does not
take the request, everybody fails with the transport. Otherwise the first reply of each recipient
before the deadline and before the channel breaks is what the outcome lists for that recipient,
whatever else is handed out, and each read finds somebody who has not been heard.
-/
theorem broadcast_reflects (w : World) {p : Playback}
    (accepted : broadcastRefusal? recipients payload deadline = none)
    (scripted : w.transport = .playback p) (prompt : c.recorder.IsPrompt w.journal)
    (quick : ∀ ch ∈ p.channels.head?, ch.setup? = some 0)
    (apart : ∀ events, p.events? = some events →
      w.now + deadline ∉ Playback.times w.now events) :
    ∃ o log, (c.broadcast recipients payload deadline w).1 = .ok o ∧
      (c.broadcast recipients payload deadline w).2.calls = log.reverse ++ w.calls ∧
      (p.events? = none → Call.readings log = [] ∧
        ∃ e, e.kind = .transportFailure ∧ o.AllFailed recipients e) ∧
      ∀ events, p.events? = some events →
        o.Reflects recipients (Playback.repliesBefore (w.now + deadline) w.now events) ∧
        (∀ (ms : List Message) (o' : BroadcastOutcome), o'.Reflects recipients ms →
          (∀ r ∈ recipients, firstReply? ms r =
            firstReply? (Playback.repliesBefore (w.now + deadline) w.now events) r) →
          o'.succeeded = o.succeeded ∧ o'.failed = o.failed ∧ o'.missing = o.missing) ∧
        Reading.messages (Call.readings log) <+:
          Playback.repliesBefore (w.now + deadline) w.now events ∧
        ∀ before reading after, Call.readings log = before ++ reading :: after →
          ∃ r ∈ recipients, ∀ m ∈ Reading.messages before, m.sender ≠ r := by
  have asked : (w.newRequest payload).2.transport = .playback p := scripted
  rcases started : c.setOut recipients payload deadline w with ⟨f, w'⟩
  cases events : p.events? with
  | none =>
    obtain ⟨failure, setup⟩ := FanOut.setupFailure_start_of_no_events c (distinct recipients)
      (w.newRequest payload).1 deadline asked events
    rw [← setOut_eq, started] at setup
    obtain ⟨o, log, done, calls, silent, failed⟩ := broadcast_of_refused c accepted started setup
    refine ⟨o, log, done, calls, fun _ => ⟨silent, _, rfl, failed⟩, ?_⟩
    intro script scripted
    cases scripted
  | some script =>
    obtain ⟨listens, outstanding⟩ := FanOut.listens_start c (distinct recipients)
      (w.newRequest payload).1 deadline asked events quick prompt (apart script events)
    rw [← setOut_eq, started] at listens outstanding
    have same : f.outstanding w' = Playback.repliesBefore (w.now + deadline) w.now script :=
      outstanding
    obtain ⟨o, log, done, calls, reflects, handed, attentive⟩ :=
      broadcast_of_listens c accepted started listens
    rw [same] at reflects handed
    refine ⟨o, log, done, calls, by simp, ?_⟩
    intro others same
    cases same
    refine ⟨reflects, ?_, handed, attentive⟩
    intro ms o' reflects' agree
    exact reflects.congr reflects' agree

/-- The answer and the rejection count, the repeat does not, and a name that is silent is
missing. -/
theorem broadcast_reflects_rehearsal :
    ∃ o, (rehearsal.broadcast [⟨"a"⟩, ⟨"b"⟩, ⟨"a"⟩, ⟨"c"⟩] (.string "hi") 50
        (World.rehearsal [.refuse, .proceed])).1 = .ok o ∧
      o.succeeded.get? ⟨"b"⟩ = some "yes" ∧
      o.failed.get? ⟨"c"⟩ = some ⟨.remoteRejected, "busy"⟩ ∧ ⟨"a"⟩ ∈ o.missing.keys := by
  have accepted : broadcastRefusal? [⟨"a"⟩, ⟨"b"⟩, ⟨"a"⟩, ⟨"c"⟩] (.string "hi") 50 = none := by
    decide
  have prompt : rehearsal.recorder.IsPrompt (World.rehearsal [.refuse, .proceed]).journal := by
    intro d member
    rcases List.mem_cons.1 member with rfl | later
    · rfl
    · rw [List.mem_singleton.1 later]
      rfl
  have quick : ∀ ch ∈ [ScriptedChannel.rehearsal].head?, ch.setup? = some 0 := by
    intro ch first
    cases first
    rfl
  have apart : ∀ events, some ScriptedChannel.rehearsal.events = some events →
      0 + 50 ∉ Playback.times 0 events := by
    intro events same
    cases same
    decide
  obtain ⟨o, log, done, -, -, listened⟩ :=
    broadcast_reflects rehearsal (World.rehearsal [.refuse, .proceed]) accepted rfl prompt
      quick apart
  have reflects := (listened _ rfl).1
  refine ⟨o, done, (reflects.succeeded _ _).2 ⟨by decide, _, rfl, rfl⟩,
    (reflects.failed _ _).2 ⟨by decide, _, rfl, rfl⟩, (reflects.missing _).2 ⟨by decide, ?_⟩⟩
  rw [← firstReply?_eq_none_iff]
  rfl

end Coordinator

end RollCall
