import RollCall.Proofs.Alike
import RollCall.Proofs.Arrivals
import RollCall.Proofs.Relay
import RollCall.Proofs.Streaming

set_option autoImplicit false

/-!
How long calls take over a store that takes no time. A call waits for its channel to open and to
take the request however long that takes, even for ever; every wait after that ends at the deadline.
-/
namespace RollCall

def Channel.Sound (limit : Nat) : Channel → Prop
  | .hub h => h.Sound limit
  | .playback _ => True

/-- A wait for a message ends at its limit. -/
theorem Transport.receive_ends (t : Transport) {clock : Clock} {limit : Nat} {ch : Channel}
    (sound : ch.Sound limit) (early : clock.now < limit) :
    (t.receive clock limit ch).2.1.Sound limit ∧
      clock.now ≤ (t.receive clock limit ch).2.2.now ∧
      (t.receive clock limit ch).2.2.now ≤ limit := by
  have cutOff : (clock.waitUntil limit).now = max clock.now limit := Clock.now_waitUntil _ _
  cases ch with
  | hub h =>
    rcases read : h.receive t.registry clock limit with ⟨m, h', clock'⟩
    simp only [receive, read]
    cases m with
    | some m =>
      obtain ⟨still, le, lt⟩ := sound.received early read
      exact ⟨still, le, Nat.le_of_lt lt⟩
    | none =>
      obtain ⟨still, now, -⟩ := sound.cutOff early read
      exact ⟨still, by omega, by omega⟩
  | playback script =>
    simp only [receive, PlaybackChannel.receive]
    split
    · dsimp only
      exact ⟨trivial, by omega, by omega⟩
    · rename_i e rest events
      split
      · have come : (clock.wait e.delay).now = clock.now + e.delay := Clock.now_wait _ _
        dsimp only
        exact ⟨trivial, by omega, by omega⟩
      · dsimp only
        exact ⟨trivial, by omega, by omega⟩

namespace World

variable {w w' : World} {limit : Nat} {ch : Channel}

/-- Time has gone on from one world to another, but not beyond an instant that was still to come. -/
structure Passes (limit : Nat) (w w' : World) : Prop where
  le : w.now ≤ w'.now
  most : w'.now ≤ max w.now limit
  stuck : w'.stuck = w.stuck

theorem Passes.refl (limit : Nat) (w : World) : Passes limit w w :=
  ⟨Nat.le_refl _, Nat.le_max_left _ _, rfl⟩

theorem Passes.trans {w'' : World} (first : Passes limit w w') (second : Passes limit w' w'') :
    Passes limit w w'' := by
  obtain ⟨le, most, stuck⟩ := first
  obtain ⟨leLater, mostLater, still⟩ := second
  exact ⟨by omega, by omega, still.trans stuck⟩

/-- No time at all. -/
theorem Passes.of_now (same : w'.now = w.now) (stuck : w'.stuck = w.stuck) : Passes limit w w' :=
  ⟨Nat.le_of_eq same.symm, same ▸ Nat.le_max_left _ _, stuck⟩

theorem passes_receive (sound : ch.Sound limit) (early : w.now < limit) :
    (w.receive ch limit).2.1.Sound limit ∧ Passes limit w (w.receive ch limit).2.2 := by
  obtain ⟨still, le, most⟩ := w.transport.receive_ends sound early
  exact ⟨still, le, Nat.le_trans most (Nat.le_max_right _ _), rfl⟩

theorem connect_offline {n : Network} (transport : w.transport = .network n)
    (offline : n.offline = true) (topic : String) (recipients : List RecipientId)
    (request : Request) : ∃ fault, (w.connect topic recipients request).1 = .error fault := by
  refine ⟨.notOpened (.transport "transport offline"), ?_⟩
  simp only [connect, openChannel, transport, Transport.openChannel, Network.openHub, offline]
  rfl

/-- On a network that is online the request is handed to all recipients at once. -/
theorem connect_online {n : Network} (transport : w.transport = .network n)
    (online : n.offline = false) (topic : String) (recipients : List RecipientId)
    (request : Request) :
    (w.connect topic recipients request).1 =
        .ok (.hub ((Hub.opened topic recipients).publish n.registry w.clock.moment request)) ∧
      (w.connect topic recipients request).2.transport.registry = n.registry ∧
      (w.connect topic recipients request).2.patience = w.patience := by
  have atOnce : w.clock.wait 0 = w.clock := Clock.wait_zero w.clock
  simp only [connect, openChannel, transport, Transport.openChannel, Network.openHub, online]
  refine ⟨?_, rfl, rfl⟩
  show Except.ok (Channel.hub ((Hub.opened topic recipients).publish n.registry
    (w.clock.wait 0).moment request)) = _
  rw [atOnce]

theorem connect_playback {p : Playback} (transport : w.transport = .playback p) {topic : String}
    {recipients : List RecipientId} {request : Request}
    (connected : (w.connect topic recipients request).1 = .ok ch) :
    ∃ script, ch = .playback script := by
  obtain ⟨answers, channels⟩ := p
  unfold connect openChannel at connected
  rw [transport] at connected
  cases channels with
  | nil => cases connected
  | cons c rest =>
    obtain ⟨openDelay, openError, publishDelay, publishError, events⟩ := c
    cases openError with
    | some e => cases connected
    | none =>
      cases publishError with
      | some e => cases connected
      | none =>
        cases connected
        exact ⟨_, rfl⟩

/-- Nothing has come on a channel that a request has just been put on. -/
theorem sound_connect {topic : String} {recipients : List RecipientId} {request : Request}
    (connected : (w.connect topic recipients request).1 = .ok ch) : ch.Sound limit := by
  cases transport : w.transport with
  | playback p =>
    obtain ⟨script, rfl⟩ := connect_playback transport connected
    trivial
  | network n =>
    cases reach : n.offline with
    | true =>
      obtain ⟨fault, failed⟩ := connect_offline transport reach topic recipients request
      rw [failed] at connected
      cases connected
    | false =>
      rw [(connect_online transport reach topic recipients request).1] at connected
      cases connected
      exact Hub.sound_publish topic recipients request

end World

namespace World

variable {w w' : World} {wait : Nat}

def BackBy (limit : Nat) (w : World) : Prop := w.stuck = false ∧ w.now ≤ limit

/--
From one world to another no more than a wait has passed or, if that takes longer, the setup of the
next channel, which is waited for in any case. If the setup has no end, neither has the wait for it.
-/
structure HeldTo (wait : Nat) (w w' : World) : Prop where
  most : ∀ ms, w.transport.setup? = some ms → w'.BackBy (w.now + max wait ms)
  inTime_iff : w'.BackBy (w.now + wait) ↔ ∃ ms, w.transport.setup? = some ms ∧ ms ≤ wait

/-- From one world to another the clock has gone on by a delay, or the caller is stuck. -/
structure Spends (delay : Option Nat) (w w' : World) : Prop where
  ended : ∀ ms, delay = some ms → w'.now = w.now + ms ∧ w'.stuck = w.stuck
  never : delay = none → w'.stuck = true

theorem Takes.spends {delay : Option Nat} (takes : Takes delay w w') : Spends delay w w' :=
  ⟨fun ms ended => ⟨takes.now ended, (takes.ended ms ended).2⟩, takes.never⟩

theorem Spends.of_now {delay : Option Nat} {w'' : World} (spends : Spends delay w w')
    (now : w''.now = w'.now) (stuck : w''.stuck = w'.stuck) : Spends delay w w'' := by
  refine ⟨?_, ?_⟩
  · intro ms ended
    obtain ⟨gone, same⟩ := spends.ended ms ended
    exact ⟨now.trans gone, stuck.trans same⟩
  · intro never
    exact stuck.trans (spends.never never)

/-- What sets a channel up first and then waits no longer than its deadline. -/
theorem Spends.heldTo {w'' : World} (spends : Spends w.transport.setup? w w')
    (free : w.stuck = false) (passes : Passes (w.now + wait) w' w'') : HeldTo wait w w'' := by
  obtain ⟨le, most, still⟩ := passes
  refine ⟨?_, ?_, ?_⟩
  · intro ms setup
    obtain ⟨now, stuck⟩ := spends.ended ms setup
    exact ⟨still.trans (stuck.trans free), by omega⟩
  · rintro ⟨returned, inTime⟩
    cases setup : w.transport.setup? with
    | none =>
      rw [still, spends.never setup] at returned
      cases returned
    | some ms =>
      obtain ⟨now, -⟩ := spends.ended ms setup
      exact ⟨ms, rfl, by omega⟩
  · rintro ⟨ms, setup, short⟩
    obtain ⟨now, stuck⟩ := spends.ended ms setup
    exact ⟨still.trans (stuck.trans free), by omega⟩

end World

namespace FanOut

/-- A fan-out with a deadline, over a store that takes no time. -/
structure Timely (limit : Nat) (f : FanOut) (w : World) : Prop where
  deadline : f.deadline = limit
  sound : ∀ ch, f.channel = some ch → ch.Sound limit
  prompt : f.coordinator.recorder.IsPrompt w.journal

variable {f f' : FanOut} {w w' : World} {limit : Nat} {log : List Call} {r : Option Resolution}
  {rs : List Resolution}

theorem Timely.resolved (timely : f.Timely limit w) (slots : List Slot) (step : Option StepId)
    (success : Bool) :
    Timely limit { f with slots := slots } (f.coordinator.endStep f.requestId step success w) ∧
      w.Passes limit (f.coordinator.endStep f.requestId step success w) := by
  obtain ⟨prompt, -⟩ := f.coordinator.endStep_timeless f.requestId step success w timely.prompt
  exact ⟨⟨timely.deadline, timely.sound, prompt⟩,
    .of_now (f.coordinator.now_endStep f.requestId timely.prompt step success) rfl⟩

/-- A wait ends at the deadline, and nothing that has come is late. -/
theorem Awaits.passes {ch ch' : Channel} {reading : Reading} (awaits : f.Awaits w ch)
    (sound : ∀ ch, f.channel = some ch → ch.Sound f.deadline)
    (read : w.receive ch f.deadline = (reading, ch', w')) :
    (∀ ch, some ch' = some ch → ch.Sound f.deadline) ∧ w.Passes f.deadline w' := by
  obtain ⟨still, passes⟩ := World.passes_receive (sound ch awaits.channel) awaits.early
  rw [read] at still passes
  refine ⟨?_, passes⟩
  intro ch held
  cases held
  exact still

/-- What a wait leaves of a fan-out. -/
theorem Timely.received (timely : f.Timely limit w) {c c' : Channel} (awaits : f.Awaits w c)
    {reading : Reading} (read : w.receive c f.deadline = (reading, c', w')) :
    Timely limit { f with channel := some c' } w' ∧ w.Passes limit w' := by
  obtain ⟨rfl, sound, prompt⟩ := timely
  obtain ⟨still, passes⟩ := awaits.passes sound read
  have same : w'.journal.store = w.journal.store :=
    congrArg (fun a : Reading × Channel × World => a.2.2.journal.store) read.symm
  refine ⟨⟨rfl, still, ?_⟩, passes⟩
  show f.coordinator.recorder.IsPrompt w'.journal
  unfold Recorder.IsPrompt
  rw [same]
  exact prompt

theorem Step.timely (step : Step f w log r f' w') (timely : f.Timely limit w) :
    f'.Timely limit w' ∧ w.Passes limit w' := by
  cases step with
  | refused setup pending => exact timely.resolved _ _ _
  | cutOff awaits read => exact timely.received awaits read
  | idle awaits read => exact timely.received awaits read
  | ignored awaits read unknown => exact timely.received awaits read
  | broken awaits read =>
    obtain ⟨still, passes⟩ := timely.received awaits read
    exact ⟨⟨timely.deadline, by simp, still.prompt⟩, passes.trans (.of_now rfl rfl)⟩
  | reported awaits read known =>
    obtain ⟨still, passes⟩ := timely.received awaits read
    obtain ⟨later, atOnce⟩ := still.resolved (fill _ _ f.slots) _ _
    exact ⟨later, passes.trans atOnce⟩

theorem Run.timely (run : Run f w log rs f' w') (timely : f.Timely limit w) :
    f'.Timely limit w' ∧ w.Passes limit w' := by
  induction run with
  | refl => exact ⟨timely, .refl limit _⟩
  | step first _ ih =>
    obtain ⟨still, passes⟩ := first.timely timely
    obtain ⟨last, passesLater⟩ := ih still
    exact ⟨last, passes.trans passesLater⟩

/-- The end of a fan-out takes no time. -/
theorem now_finish (prompt : f.coordinator.recorder.IsPrompt w.journal) :
    (f.finish w).2.now = w.now := by
  unfold finish releaseChannel
  cases f.channel with
  | none => exact f.coordinator.now_endStep f.requestId prompt _ _
  | some ch => exact f.coordinator.now_endStep (w := w.release ch) f.requestId prompt _ _

theorem stuck_finish (f : FanOut) (w : World) : (f.finish w).2.stuck = w.stuck := by
  unfold finish releaseChannel
  cases f.channel <;> rfl

theorem Timely.finish (timely : f.Timely limit w) : w.Passes limit (f.finish w).2 :=
  .of_now (now_finish timely.prompt) (f.stuck_finish w)

/-- Nothing that comes on the channel of a fan-out that sets out comes late. -/
theorem sound_start {c : Coordinator} {rs : List RecipientId} {request : Request} {wait : Nat} :
    ∀ ch, (start c rs request wait w).1.channel = some ch → ch.Sound limit := by
  intro ch held
  cases outcome : (w.connect (c.topic "broadcast" request.requestId) rs request).1 with
  | error fault =>
    simp only [start, outcome] at held
    cases held
  | ok opened =>
    simp only [start, outcome] at held
    cases held
    exact World.sound_connect outcome

/-- Setting out takes as long as it takes to set the channel up. -/
theorem timely_start (c : Coordinator) (rs : List RecipientId) (request : Request) (wait : Nat)
    (w : World) (prompt : c.recorder.IsPrompt w.journal) :
    Timely (w.now + wait) (start c rs request wait w).1 (start c rs request wait w).2 ∧
      World.Spends w.transport.setup? w (start c rs request wait w).2 := by
  have connected := w.takes_connect (c.topic "broadcast" request.requestId) rs request
  have promptLater := connected.isPrompt prompt
  obtain ⟨promptAtEnd, moment⟩ := c.startSteps_timeless request.requestId
    (c.label :: rs.map RecipientId.text) _ promptLater
  exact ⟨⟨rfl, sound_start, promptAtEnd⟩,
    connected.spends.of_now (congrArg Moment.ms moment) rfl⟩

/-- From setting out to the end the deadline is kept, if the channel is set up in time. -/
theorem heldTo_gathered {c : Coordinator} {rs : List RecipientId} {request : Request} {wait : Nat}
    {v : World} {count : Nat} {reports : List Resolution} {w'' : World}
    (prompt : c.recorder.IsPrompt v.journal) (free : v.stuck = false)
    (started : start c rs request wait v = (f, w))
    (gathered : f.gather count w = (reports, f', w'')) : v.HeldTo wait (f'.finish w'').2 := by
  obtain ⟨timely, opened⟩ := timely_start c rs request wait v prompt
  obtain ⟨log, run⟩ := gather_run count f w
  rw [started] at timely opened
  rw [gathered] at run
  obtain ⟨still, passes⟩ := run.timely timely
  exact opened.heldTo free (passes.trans still.finish)

end FanOut

namespace Watch

variable {c : Coordinator} {s : Watch} {w : World}

theorem see_spec (own : s.coordinator = c) (prompt : c.recorder.IsPrompt w.journal) (r : Reply) :
    (s.see r w).1.coordinator = c ∧ (s.see r w).1.deadline = s.deadline ∧
      c.recorder.IsPrompt (s.see r w).2.journal ∧ (s.see r w).2.now = w.now := by
  subst own
  have recorded := Recorder.perform_timeless s.coordinator.recorder s.requestId
    (.finished r.sender.text s.since (!r.body.isRejected)) w.journal
  obtain ⟨still, moment⟩ := recorded prompt
  exact ⟨rfl, rfl, still, congrArg Moment.ms moment⟩

/-- However long a relay reads, it does not read beyond its deadline. -/
theorem passes_readOn (allowance : Nat) {ch : Channel} (own : s.coordinator = c)
    (prompt : c.recorder.IsPrompt w.journal) (sound : ch.Sound s.deadline) :
    c.recorder.IsPrompt (readOn allowance ch s w).2.2.journal ∧
      w.Passes s.deadline (readOn allowance ch s w).2.2 := by
  induction allowance generalizing ch s w with
  | zero => exact ⟨prompt, .refl _ _⟩
  | succ allowance ih =>
    rw [readOn]
    split
    · exact ⟨prompt, .refl _ _⟩
    · rename_i late
      obtain ⟨still, passes⟩ := World.passes_receive sound (Nat.lt_of_not_le late)
      have promptLater : c.recorder.IsPrompt (w.receive ch s.deadline).2.2.journal := prompt
      generalize w.receive ch s.deadline = a at still passes promptLater ⊢
      obtain ⟨reading, ch', w'⟩ := a
      cases reading with
      | cutOff => exact ⟨promptLater, passes⟩
      | nothing =>
        obtain ⟨promptAtEnd, rest⟩ := ih own promptLater still
        exact ⟨promptAtEnd, passes.trans rest⟩
      | failed e => exact ⟨promptLater, passes⟩
      | message m =>
        obtain ⟨ownLater, deadline, promptSeen, now⟩ := see_spec own promptLater m
        have seen := passes.trans (.of_now now rfl)
        dsimp only
        split
        · exact ⟨promptSeen, seen⟩
        · obtain ⟨promptAtEnd, rest⟩ := ih ownLater promptSeen (deadline ▸ still)
          rw [deadline] at rest
          exact ⟨promptAtEnd, seen.trans rest⟩

end Watch

namespace Coordinator

variable (c : Coordinator) {recipients seeds : List RecipientId} {payload : Json} {marker : String}
  {deadline : Nat}

theorem broadcast_heldTo {w : World} (prompt : c.recorder.IsPrompt w.journal)
    (free : w.stuck = false)
    (accepted : broadcastRefusal? recipients payload deadline = none) :
    w.HeldTo deadline (c.broadcast recipients payload deadline w).2 := by
  rcases started : c.setOut recipients payload deadline w with ⟨f, w'⟩
  rcases gathered : f.gather (f.slots.length + 1) w' with ⟨reports, f', w''⟩
  rw [broadcast_eq c w accepted started gathered]
  rw [setOut_eq] at started
  have asked : c.recorder.IsPrompt (w.newRequest payload).2.journal := prompt
  have held := FanOut.heldTo_gathered asked free started gathered
  exact ⟨held.most, held.inTime_iff⟩

/-- The time of a stream is counted from the first event that is asked for. -/
theorem stream_heldTo {w u : World} {s : BroadcastStream}
    (made : (c.stream recipients payload deadline w).1 = .ok s)
    (prompt : c.recorder.IsPrompt u.journal) (free : u.stuck = false) :
    u.HeldTo deadline (s.toList u).2.2 := by
  cases refused : broadcastRefusal? recipients payload deadline with
  | some refusal =>
    simp only [stream, refused] at made
    cases made
  | none =>
    simp only [stream, refused] at made
    cases made
    rcases started : FanOut.start c (distinct recipients) (w.newRequest payload).1 deadline u with
      ⟨f, u'⟩
    rcases gathered : f.gather (f.slots.length + 1) u' with ⟨reports, f', u''⟩
    rw [BroadcastStream.toList_idle started gathered]
    exact FanOut.heldTo_gathered prompt free started gathered

/-- A relay sets out in the time that it takes to set its channel up. -/
theorem seed_spec (seeds : List RecipientId) (payload : Json) {w : World}
    (prompt : c.recorder.IsPrompt w.journal) :
    c.recorder.IsPrompt (c.seed seeds payload w).2.2.journal ∧
      World.Spends w.transport.setup? w (c.seed seeds payload w).2.2 ∧
      ∀ ch, (c.seed seeds payload w).1 = .ok ch → ∀ limit, ch.Sound limit := by
  have asked : c.recorder.IsPrompt (w.newRequest payload).2.journal := prompt
  obtain ⟨opened, moment⟩ := c.startSteps_timeless (w.newRequest payload).1.requestId [c.label]
    (w.newRequest payload).2 asked
  have now := congrArg Moment.ms moment
  have connected := World.takes_connect (c.topic "relay" (w.newRequest payload).1.requestId) seeds
    (w.newRequest payload).1
    (c.startSteps (w.newRequest payload).1.requestId [c.label] (w.newRequest payload).2).2
  refine ⟨connected.isPrompt opened, ⟨?_, connected.spends.never⟩,
    fun ch connected limit => World.sound_connect connected⟩
  intro ms ended
  obtain ⟨gone, stuck⟩ := connected.spends.ended ms ended
  exact ⟨gone.trans (congrArg (· + ms) now), stuck⟩

theorem relay_heldTo {w : World} (prompt : c.recorder.IsPrompt w.journal)
    (free : w.stuck = false)
    (accepted : relayRefusal? seeds payload marker deadline = none) :
    w.HeldTo deadline (c.relay seeds payload marker deadline w).2 := by
  obtain ⟨seeded, opened, fresh⟩ := c.seed_spec seeds payload prompt
  rcases outset : c.seed seeds payload w with ⟨outcome, step, w'⟩
  rw [outset] at seeded opened fresh
  dsimp only at seeded opened fresh
  cases outcome with
  | error fault =>
    have ended := c.now_endStep (w.newRequest payload).1.requestId seeded step false
    rw [c.relay_of_fault accepted outset]
    exact opened.heldTo free (.of_now ended rfl)
  | ok ch =>
    have watching := Watch.passes_readOn (ch.allowance w'.patience)
      (s := c.watch payload marker deadline w w'.wallClock.1 []) (w := w'.wallClock.2) rfl seeded
      (fresh ch rfl _)
    rcases watched : Watch.readOn (ch.allowance w'.patience) ch
      (c.watch payload marker deadline w w'.wallClock.1 []) w'.wallClock.2 with ⟨ch', s, w''⟩
    rw [watched] at watching
    obtain ⟨still, passes⟩ := watching
    have ended := c.now_endStep (w := w''.release ch') (w.newRequest payload).1.requestId still step
      s.terminal.isSome
    have timed : w'.Passes (w.now + deadline) w'.wallClock.2 := .of_now rfl rfl
    have released : w''.Passes (w.now + deadline) (w''.release ch') := .of_now rfl rfl
    rw [c.relay_of_channel accepted outset watched]
    exact opened.heldTo free
      (((timed.trans passes).trans released).trans (.of_now ended rfl))

/--
Calls over a store that takes no time, on any transport. A broadcast, a stream that is read to its
end and a relay are over at their deadline exactly if their channel has opened and taken the request
by then: every wait for a message is cut off at the deadline, but nothing cuts the setup off. If
that has no end, the call has none.
-/
theorem deadline_kept_iff (recipients seeds : List RecipientId) (payload : Json) (marker : String)
    (deadline : Nat) :
    (∀ w : World, c.recorder.IsPrompt w.journal → w.stuck = false →
      broadcastRefusal? recipients payload deadline = none →
      w.HeldTo deadline (c.broadcast recipients payload deadline w).2) ∧
    (∀ (w u : World) (s : BroadcastStream), (c.stream recipients payload deadline w).1 = .ok s →
      c.recorder.IsPrompt u.journal → u.stuck = false → u.HeldTo deadline (s.toList u).2.2) ∧
    ∀ w : World, c.recorder.IsPrompt w.journal → w.stuck = false →
      relayRefusal? seeds payload marker deadline = none →
      w.HeldTo deadline (c.relay seeds payload marker deadline w).2 :=
  ⟨fun _ prompt free accepted => c.broadcast_heldTo prompt free accepted,
    fun _ _ _ made prompt free => c.stream_heldTo made prompt free,
    fun _ prompt free accepted => c.relay_heldTo prompt free accepted⟩

end Coordinator

def World.setupRehearsal (openDelay publishDelay : Option Nat) : World :=
  { rehearsal [] with transport := .playback ⟨[], [⟨openDelay, none, publishDelay, none, []⟩]⟩ }

theorem World.prompt_setupRehearsal (openDelay publishDelay : Option Nat) :
    Coordinator.rehearsal.recorder.IsPrompt (setupRehearsal openDelay publishDelay).journal := by
  intro d member
  cases member

namespace Coordinator

/-- Calls whose channel is set up at their deadline, and calls whose channel is set up after it. -/
theorem deadline_kept_iff_rehearsal :
    (rehearsal.broadcast [⟨"a"⟩] (.string "hi") 50
        (World.setupRehearsal (some 20) (some 30))).2.BackBy (0 + 50) ∧
      (rehearsal.relay [⟨"a"⟩] (.string "hi") "yes" 50
        (World.setupRehearsal (some 20) (some 30))).2.BackBy (0 + 50) ∧
      ∀ s, (rehearsal.stream [⟨"a"⟩] (.string "hi") 50
          (World.setupRehearsal (some 20) (some 31))).1 = .ok s →
        ¬ (s.toList (World.setupRehearsal (some 20) (some 31))).2.2.BackBy (0 + 50) := by
  obtain ⟨broadcast, stream, relay⟩ :=
    rehearsal.deadline_kept_iff [⟨"a"⟩] [⟨"a"⟩] (.string "hi") "yes" 50
  have prompt := World.prompt_setupRehearsal (some 20)
  refine ⟨?_, ?_, ?_⟩
  · exact (broadcast _ (prompt (some 30)) rfl (by decide)).inTime_iff.2 ⟨50, rfl, by decide⟩
  · exact (relay _ (prompt (some 30)) rfl (by decide)).inTime_iff.2 ⟨50, rfl, by decide⟩
  · intro s made inTime
    obtain ⟨ms, setup, short⟩ := (stream _ _ s made (prompt (some 31)) rfl).inTime_iff.1 inTime
    cases setup
    exact absurd short (by decide)

/-- No call that may take fifty milliseconds is back in time. -/
def Overdue (w : World) : Prop :=
  ¬ (rehearsal.broadcast [⟨"a"⟩] (.string "hi") 50 w).2.BackBy (w.now + 50) ∧
    (∃ s, (rehearsal.stream [⟨"a"⟩] (.string "hi") 50 w).1 = .ok s ∧
      ¬ (s.toList w).2.2.BackBy (w.now + 50)) ∧
    ¬ (rehearsal.relay [⟨"a"⟩] (.string "hi") "yes" 50 w).2.BackBy (w.now + 50)

theorem overdue_setupRehearsal {openDelay publishDelay : Option Nat}
    (slow : ∀ ms, (World.setupRehearsal openDelay publishDelay).transport.setup? = some ms →
      50 < ms) : Overdue (World.setupRehearsal openDelay publishDelay) := by
  have prompt := World.prompt_setupRehearsal openDelay publishDelay
  have late {w' : World} (held : (World.setupRehearsal openDelay publishDelay).HeldTo 50 w') :
      ¬ w'.BackBy ((World.setupRehearsal openDelay publishDelay).now + 50) := by
    intro inTime
    obtain ⟨ms, setup, short⟩ := held.inTime_iff.1 inTime
    exact absurd (slow ms setup) (by omega)
  refine ⟨late (rehearsal.broadcast_heldTo prompt rfl (by decide)), ?_,
    late (rehearsal.relay_heldTo prompt rfl (by decide))⟩
  obtain ⟨s, made⟩ : ∃ s, (rehearsal.stream [⟨"a"⟩] (.string "hi") 50
      (World.setupRehearsal openDelay publishDelay)).1 = .ok s := ⟨_, rfl⟩
  exact ⟨s, made, late (rehearsal.stream_heldTo made prompt rfl)⟩

/--
A channel that takes a tenth of a second to open, or to take the request, keeps each call twice as
long as it may take, and one that never opens or never takes the request keeps it for ever.
-/
theorem deadline_missed :
    Overdue (World.setupRehearsal (some 100) (some 0)) ∧
      Overdue (World.setupRehearsal (some 0) (some 100)) ∧
      Overdue (World.setupRehearsal none (some 0)) ∧
      Overdue (World.setupRehearsal (some 0) none) := by
  refine ⟨?_, ?_, ?_, ?_⟩ <;> refine overdue_setupRehearsal fun ms setup => ?_
  · cases setup
    decide
  · cases setup
    decide
  · cases setup
  · cases setup

end Coordinator

end RollCall
