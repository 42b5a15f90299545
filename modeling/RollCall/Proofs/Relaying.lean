import RollCall.Proofs.Sightings

set_option autoImplicit false

/-!
What a relay must come to. With a store that takes no time its result can be read off the messages
that its channel hands out before the deadline and before it breaks: up to the first that holds the
marker they are the hops, and without such a message all of them are.
-/
namespace RollCall

namespace Coordinator

variable (c : Coordinator) (seeds : List RecipientId) (payload : Json) (marker : String)
  (deadline : Nat)

/--
What has come on the channel of a relay when so many tasks of a network have run, of those that are
due before the deadline.
-/
def traffic (n : Network) (count : Nat) (w : World) : List Message :=
  let request := (w.newRequest payload).1
  let hub := Hub.opened (c.topic "relay" request.requestId) seeds
  (hub.publish n.registry w.clock.moment request).arrivals n.registry (w.now + deadline) count

variable {seeds payload marker deadline} {w w' : World} {step : Option StepId}

theorem relay_deadline_pos (accepted : relayRefusal? seeds payload marker deadline = none) :
    0 < deadline := by
  by_contra zero
  obtain rfl : deadline = 0 := by omega
  unfold relayRefusal? at accepted
  split at accepted
  · cases accepted
  · split at accepted
    · cases accepted
    · cases accepted

/-- With a channel a relay reads it, and then gives it back. -/
theorem relay_reads {ch : Channel}
    (accepted : relayRefusal? seeds payload marker deadline = none)
    (seeded : c.seed seeds payload w = (.ok ch, step, w')) :
    ∃ log s ch' w'' elapsed, Watch.Reads (ch.allowance w'.patience)
        (c.watch payload marker deadline w w'.wallClock.1 []) ch w'.wallClock.2 log s ch' w'' ∧
      c.relay seeds payload marker deadline w = (.ok (s.result elapsed),
        c.endStep (w.newRequest payload).1.requestId step s.terminal.isSome (w''.release ch')) := by
  obtain ⟨log, reads⟩ := Watch.readOn_reads (ch.allowance w'.patience) ch
    (c.watch payload marker deadline w w'.wallClock.1 []) w'.wallClock.2
  rcases watched : Watch.readOn (ch.allowance w'.patience) ch
    (c.watch payload marker deadline w w'.wallClock.1 []) w'.wallClock.2 with ⟨ch', s, w''⟩
  rw [watched] at reads
  exact ⟨log, s, ch', w'', _, reads, c.relay_of_channel accepted seeded watched⟩

/-- The channel of a relay on a network when its seeds have been asked. -/
def dispatched (seeds : List RecipientId) (payload : Json) (n : Network) (w : World) : Hub :=
  let (request, w) := w.newRequest payload
  let (_, w) := c.startSteps request.requestId [c.label] w
  (Hub.opened (c.topic "relay" request.requestId) seeds).publish n.registry w.clock.moment request

/-- On a network that is online the seeds are asked, whatever the store does. -/
theorem seed_online (seeds : List RecipientId) (payload : Json) {n : Network}
    (network : w.transport = .network n) (online : n.offline = false) :
    ∃ step w', c.seed seeds payload w = (.ok (.hub (c.dispatched seeds payload n w)), step, w') ∧
      w'.patience = w.patience ∧ w'.transport.registry = n.registry := by
  have transport : (c.startSteps (w.newRequest payload).1.requestId [c.label]
      (w.newRequest payload).2).2.transport = .network n := network
  obtain ⟨connected, registry, patience⟩ := World.connect_online transport online
    (c.topic "relay" (w.newRequest payload).1.requestId) seeds (w.newRequest payload).1
  rcases seeded : c.seed seeds payload w with ⟨outcome, step, w'⟩
  have channel := (congrArg Prod.fst seeded).symm.trans connected
  have registryLater : w'.transport.registry = n.registry :=
    (congrArg (fun a => a.2.2.transport.registry) seeded).symm.trans registry
  have patienceLater : w'.patience = w.patience :=
    (congrArg (fun a => a.2.2.patience) seeded).symm.trans patience
  dsimp only at channel
  subst channel
  exact ⟨step, w', rfl, patienceLater, registryLater⟩

/-- With a store that takes no time they are asked at once. -/
theorem dispatched_of_prompt (seeds : List RecipientId) (payload : Json) (n : Network)
    (prompt : c.recorder.IsPrompt w.journal) :
    c.dispatched seeds payload n w =
      (Hub.opened (c.topic "relay" (w.newRequest payload).1.requestId) seeds).publish n.registry
        w.clock.moment (w.newRequest payload).1 := by
  have asked : c.recorder.IsPrompt (w.newRequest payload).2.journal := prompt
  obtain ⟨-, moment⟩ := c.startSteps_timeless (w.newRequest payload).1.requestId [c.label]
    (w.newRequest payload).2 asked
  simp only [dispatched, World.clock, moment]
  rfl

/-- On a network that is online a relay attends to what its seeds give out. -/
theorem attends_seed {n : Network} (network : w.transport = .network n)
    (online : n.offline = false) (prompt : c.recorder.IsPrompt w.journal)
    (accepted : relayRefusal? seeds payload marker deadline = none) :
    ∃ step w', c.seed seeds payload w = (.ok (.hub (c.dispatched seeds payload n w)), step, w') ∧
      w'.patience = w.patience ∧
      (c.watch payload marker deadline w w'.wallClock.1 []).Attends n.registry
        (c.dispatched seeds payload n w) w'.wallClock.2 := by
  obtain ⟨promptLater, opened, -⟩ := c.seed_spec seeds payload prompt
  obtain ⟨step, w', seeded, patience, registry⟩ := c.seed_online seeds payload network online
  have atOnce : w.transport.setup? = some 0 := by
    rw [network]
    rfl
  obtain ⟨now, -⟩ := opened.ended 0 atOnce
  rw [seeded] at promptLater now
  refine ⟨step, w', seeded, patience, promptLater, registry, Hub.sound_publish _ _ _, ?_⟩
  intro late
  have started : w'.wallClock.2.now = w.now := now
  have positive := relay_deadline_pos accepted
  have limit : w.now + deadline ≤ w'.wallClock.2.now := late
  omega

/-- A relay over a network that is online, as long as it has the patience for all that comes. -/
theorem relay_observes_traffic {n : Network} (network : w.transport = .network n)
    (online : n.offline = false) (prompt : c.recorder.IsPrompt w.journal)
    (accepted : relayRefusal? seeds payload marker deadline = none) {count : Nat}
    (few : (c.traffic seeds payload deadline n count w).length ≤ w.patience)
    (whole : (∀ k, c.traffic seeds payload deadline n k w <+:
        c.traffic seeds payload deadline n count w) ∨
      ∃ m ∈ c.traffic seeds payload deadline n count w, m.Holds marker) :
    ∃ (s : Watch) (elapsed : Nat),
      (c.relay seeds payload marker deadline w).1 = .ok (s.result elapsed) ∧
      (s.result elapsed).Observes marker (c.traffic seeds payload deadline n count w) [] := by
  obtain ⟨step, w', seeded, patience, attends⟩ := c.attends_seed network online prompt accepted
  obtain ⟨log, s, ch', w'', elapsed, reads, done⟩ := c.relay_reads accepted seeded
  refine ⟨s, elapsed, congrArg Prod.fst done, ?_⟩
  obtain ⟨sound, h', ⟨ran, came⟩, last⟩ := reads.attends rfl attends
  rw [c.dispatched_of_prompt seeds payload n prompt] at came
  have later : c.traffic seeds payload deadline n (ran + count) w = Reading.messages log ++
      h'.arrivals n.registry (w.now + deadline) count := came count
  have read : Reading.messages log <+: c.traffic seeds payload deadline n (ran + count) w :=
    ⟨_, later.symm⟩
  have handed : c.traffic seeds payload deadline n count w <+:
      c.traffic seeds payload deadline n (ran + count) w :=
    Hub.arrivals_mono _ _ (Nat.le_add_left count ran) _
  refine reads.observes rfl rfl rfl none read handed ?_ ?_ elapsed
  · intro none
    refine ⟨?_, sound⟩
    rcases last none with nothing | many
    · have nothingLater : h'.arrivals n.registry (w.now + deadline) count = [] := nothing count
      rw [later, nothingLater, List.append_nil] at handed
      exact handed
    · have allowed : w'.patience ≤ (Reading.messages log).length := many
      apply List.prefix_of_prefix_length_le handed read
      omega
  · intro silent
    rcases whole with all | ⟨m, member, holds⟩
    · exact read.trans (all (ran + count))
    · exact absurd holds (silent m member)

/-- Whatever becomes of a relay that is not refused, it has a result. -/
theorem exists_relay (w : World) (accepted : relayRefusal? seeds payload marker deadline = none) :
    ∃ (s : Watch) (elapsed : Nat),
      (c.relay seeds payload marker deadline w).1 = .ok (s.result elapsed) := by
  rcases seeded : c.seed seeds payload w with ⟨outcome, step, w'⟩
  cases outcome with
  | error fault =>
    rw [c.relay_of_fault accepted seeded]
    exact ⟨_, _, rfl⟩
  | ok ch =>
    obtain ⟨log, s, ch', w'', elapsed, -, done⟩ := c.relay_reads accepted seeded
    exact ⟨s, elapsed, congrArg Prod.fst done⟩

end Coordinator

end RollCall
