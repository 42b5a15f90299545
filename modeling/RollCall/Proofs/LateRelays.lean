import RollCall.Proofs.Lateness
import RollCall.Proofs.Relaying

set_option autoImplicit false

/-!
A relay over a network and a store that takes its time. Each message is recorded before it is
matched against the marker, and the deadline is tested before the next one is read. So the message
with the marker is found exactly if the relay turns to its channel for it before the deadline; that
it has come by then is not enough.
-/
namespace RollCall

/-- The result of a relay that saw these messages and then this one, with the marker. -/
structure RelayResult.Completes (r : RelayResult) (before : List Message) (m : Message) : Prop where
  completed : r.isCompleted = true
  payload : r.terminalPayload = some m.body.hopText
  hops : r.observedHops.map Reply.message = before ++ [m]

/-- The result of a relay that saw only some of these messages, and no marker. -/
structure RelayResult.StopsShort (r : RelayResult) (before : List Message) : Prop where
  timedOut : r.timedOut = true
  payload : r.terminalPayload = none
  hops : r.observedHops.map Reply.message <+: before

theorem RelayResult.StopsShort.not_completes {r : RelayResult} {before : List Message} {m : Message}
    (short : r.StopsShort before) : ¬ r.Completes before m := by
  intro completes
  have none := completes.payload.symm.trans short.payload
  cases none

/-- Who has read only some of the messages before another one still has messages to come. -/
theorem Hub.not_over_of_short {registry : Registry} {h h' : Hub} {limit ran count : Nat}
    {read before after : List Message} {m : Message}
    (came : h.arrivals registry limit count = before ++ m :: after)
    (later : ∀ later, h.arrivals registry limit (ran + later) =
      read ++ h'.arrivals registry limit later)
    (short : read <+: before) : ¬ ∀ later, h'.arrivals registry limit later = [] := by
  intro nothing
  have all := (Hub.arrivals_mono registry limit (Nat.le_add_left count ran) h).length_le
  rw [came, later, nothing, List.append_nil, List.length_append, List.length_cons] at all
  have fewer := short.length_le
  omega

namespace Watch

/-- The instants at which a watch looks whether its deadline has come. -/
def turns : Nat → Channel → Watch → World → List Nat
  | 0, _, _, _ => []
  | allowance + 1, c, s, w =>
    w.now ::
      if s.deadline ≤ w.now then []
      else
        let (reading, c, w) := w.receive c s.deadline
        match reading with
        | .cutOff => []
        | .failed _ => []
        | .nothing => turns allowance c s w
        | .message m =>
          let (s, w) := s.see m w
          if s.terminal.isSome then [] else turns allowance c s w

variable {n : Nat} {s s' : Watch} {c c' : Channel} {w w' : World} {log : List Reading} {m : Message}
  {r : Reply}

theorem turns_of_late (late : s.deadline ≤ w.now) : turns (n + 1) c s w = [w.now] := by
  rw [turns, if_pos late]

theorem turns_of_idle (early : w.now < s.deadline)
    (read : w.receive c s.deadline = (.nothing, c', w')) :
    turns (n + 1) c s w = w.now :: turns n c' s w' := by
  rw [turns, if_neg (Nat.not_le_of_lt early), read]

theorem turns_of_hop (early : w.now < s.deadline)
    (read : w.receive c s.deadline = (.message r, c', w'))
    (unmarked : ¬ r.message.Holds s.marker) :
    turns (n + 1) c s w = w.now :: turns n c' (s.see r w').1 (s.see r w').2 := by
  rw [turns, if_neg (Nat.not_le_of_lt early), read]
  dsimp only
  rw [if_neg (mt (isSome_terminal_see s r w').1 unmarked)]

/-- Whatever a watch reads, it turns to its channel for it before the deadline. -/
theorem Reads.early (reads : Reads n s c w log s' c' w') :
    ∀ t ∈ (turns n c s w).take log.length, t < s.deadline := by
  have once {n : Nat} {s : Watch} {c : Channel} {w : World} (early : w.now < s.deadline) :
      ∀ t ∈ (turns (n + 1) c s w).take 1, t < s.deadline := by
    intro t member
    rw [turns, List.take_succ_cons, List.take_zero, List.mem_singleton] at member
    exact member ▸ early
  induction reads with
  | weary => simp
  | late => simp
  | cutOff early => exact once early
  | broken early => exact once early
  | marked early => exact once early
  | idle early read _ ih =>
    rw [turns_of_idle early read]
    exact List.forall_mem_cons.2 ⟨early, ih⟩
  | hop early read unmarked _ ih =>
    rw [turns_of_hop early read unmarked]
    exact List.forall_mem_cons.2 ⟨early, ih⟩

/--
On a network what comes from some task on is what was read and what comes after it, whatever the
store does. Unless the marker is found that is nothing, or as much has been read as may be, or the
watch turned to its channel too late.
-/
theorem Reads.follows {registry : Registry} {h : Hub} (reads : Reads n s c w log s' c' w')
    (held : c = .hub h) (network : w.transport.registry = registry) (sound : h.Sound s.deadline) :
    log.findSome? Reading.fault? = none ∧ ∃ h' : Hub,
      (∃ ran, ∀ later, h.arrivals registry s.deadline (ran + later) =
        Reading.messages log ++ h'.arrivals registry s.deadline later) ∧
      (s'.terminal = none → (∀ later, h'.arrivals registry s.deadline later = []) ∨
        n ≤ (Reading.messages log).length ∨
        ∃ t ∈ (turns n c s w).take ((Reading.messages log).length + 1), s.deadline ≤ t) := by
  have nothingRead (registry : Registry) (limit : Nat) (h : Hub) : ∃ ran, ∀ later,
      h.arrivals registry limit (ran + later) = [] ++ h.arrivals registry limit later :=
    ⟨0, fun later => by rw [Nat.zero_add, List.nil_append]⟩
  induction reads generalizing h with
  | weary => exact ⟨rfl, h, nothingRead _ _ h, fun _ => Or.inr (Or.inl (Nat.zero_le _))⟩
  | @late _ s _ w late =>
    refine ⟨rfl, h, nothingRead _ _ h, fun _ => Or.inr (Or.inr ⟨w.now, ?_, late⟩)⟩
    rw [turns_of_late late]
    exact List.mem_singleton_self _
  | cutOff early read =>
    subst held
    obtain ⟨h', -, -, ⟨-, -, none, nothing⟩ | ⟨m, message, -⟩⟩ :=
      World.received network sound early read
    · exact ⟨rfl, h', ⟨0, fun later => by rw [none, nothing]; rfl⟩, fun _ => Or.inl nothing⟩
    · cases message
  | broken early read =>
    subst held
    obtain ⟨h', -, -, ⟨cut, -⟩ | ⟨m, message, -⟩⟩ := World.received network sound early read
    · cases cut
    · cases message
  | marked early read holds =>
    subst held
    obtain ⟨h', -, -, ⟨cut, -⟩ | ⟨m, message, -, came⟩⟩ := World.received network sound early read
    · cases cut
    · cases message
      rw [terminal_see holds]
      exact ⟨rfl, h', came, by simp⟩
  | idle early read =>
    subst held
    obtain ⟨h', -, -, ⟨cut, -⟩ | ⟨m, message, -⟩⟩ := World.received network sound early read
    · cases cut
    · cases message
  | @hop _ s _ _ _ _ _ w' _ m log early read unmarked _ ih =>
    subst held
    have networkLater : (s.see m w').2.transport.registry = registry :=
      (congrArg (fun a => a.2.2.transport.registry) read).symm.trans network
    obtain ⟨h', same, soundLater, ⟨cut, -⟩ | ⟨m', message, -, ran, came⟩⟩ :=
      World.received network sound early read
    · cases cut
    · cases message
      obtain ⟨unbroken, h'', ⟨more, later⟩, last⟩ := ih same networkLater soundLater
      refine ⟨unbroken, h'', ⟨ran + more, fun count => ?_⟩, fun none => ?_⟩
      · rw [Nat.add_assoc, came]
        exact congrArg (m.message :: ·) (later count)
      · rw [turns_of_hop early read unmarked]
        rcases last none with nothing | many | ⟨t, turned, late⟩
        · exact Or.inl nothing
        · exact Or.inr (Or.inl (Nat.succ_le_succ many))
        · exact Or.inr (Or.inr ⟨t, List.mem_cons_of_mem _ turned, late⟩)

/-- What comes of it when a message with the marker comes before the deadline. -/
theorem Reads.completes_or_stopsShort {registry : Registry} {h : Hub} {count : Nat}
    {before after : List Message} (reads : Reads n s (.hub h) w log s' c' w')
    (network : w.transport.registry = registry) (sound : h.Sound s.deadline)
    (fresh : s.terminal = none) (noHops : s.hops = [])
    (came : h.arrivals registry s.deadline count = before ++ m :: after)
    (silent : ∀ k ∈ before, ¬ k.Holds s.marker) (holds : m.Holds s.marker)
    (few : before.length < n) (elapsed : Nat) :
    (s'.result elapsed).Completes before m ∧
        (∀ t ∈ (turns n (.hub h) s w).take (before.length + 1), t < s.deadline) ∨
      (s'.result elapsed).StopsShort before ∧
        ∃ t ∈ (turns n (.hub h) s w).take (before.length + 1), s.deadline ≤ t := by
  obtain ⟨-, h', ⟨ran, later⟩, last⟩ := reads.follows rfl network sound
  have hops : s'.hops.map Reply.message = Reading.messages log := by
    rw [reads.hops, noHops]
    rfl
  have first : before ++ [m] <+: h.arrivals registry s.deadline (ran + count) := by
    refine List.IsPrefix.trans ?_ (Hub.arrivals_mono _ _ (Nat.le_add_left count ran) _)
    exact ⟨after, by rw [List.append_assoc, List.singleton_append, came]⟩
  rcases (reads.sighting fresh).found_or_short ⟨_, (later count).symm⟩ first silent holds with
    ⟨found, read⟩ | ⟨unfound, short⟩
  · refine Or.inl ⟨⟨?_, found, hops.trans read⟩, fun t member => ?_⟩
    · rw [result, RelayResult.isCompleted, found]
      rfl
    · have enough : before.length + 1 ≤ log.length := by
        have fewer : (Reading.messages log).length ≤ log.length := List.length_filterMap_le _ _
        rwa [read, List.length_append, List.length_singleton] at fewer
      exact reads.early t (List.take_subset_take_left _ enough member)
  · refine Or.inr ⟨⟨?_, unfound, hops ▸ short⟩, ?_⟩
    · rw [result, unfound]
      rfl
    · rcases last unfound with nothing | many | ⟨t, member, late⟩
      · exact absurd nothing (Hub.not_over_of_short came later short)
      · exact absurd (short.length_le.trans_lt few) (Nat.not_lt_of_le many)
      · have fewer := Nat.succ_le_succ short.length_le
        exact ⟨t, List.take_subset_take_left _ fewer member, late⟩

/-- With a store that takes no time the marker is found. -/
theorem Reads.not_stopsShort {registry : Registry} {h : Hub} {count : Nat}
    {before after : List Message} (reads : Reads n s (.hub h) w log s' c' w')
    (attends : s.Attends registry h w) (noHops : s.hops = [])
    (came : h.arrivals registry s.deadline count = before ++ m :: after)
    (few : before.length < n) (elapsed : Nat) : ¬ (s'.result elapsed).StopsShort before := by
  intro stops
  obtain ⟨-, h', ⟨ran, later⟩, last⟩ := reads.attends rfl attends
  have short : Reading.messages log <+: before := by
    have hops := stops.hops
    rwa [result, reads.hops, noHops] at hops
  rcases last stops.payload with nothing | many
  · exact Hub.not_over_of_short came later short nothing
  · exact absurd (short.length_le.trans_lt few) (Nat.not_lt_of_le many)

end Watch

namespace Coordinator

variable (c : Coordinator) (seeds : List RecipientId) (payload : Json) (marker : String)
  (deadline : Nat)

/--
What has come on the channel of a relay when so many tasks of a network have run, of those that are
due before the deadline. The seeds are asked when the store has been told of the relay.
-/
def reached (n : Network) (count : Nat) (w : World) : List Message :=
  (c.dispatched seeds payload n w).arrivals n.registry (w.now + deadline) count

/-- The instants at which a relay looks whether its deadline has come. -/
def relayTurns (w : World) : List Nat :=
  match c.seed seeds payload w with
  | (.error _, _, _) => []
  | (.ok ch, _, w') =>
    Watch.turns (ch.allowance w'.patience) ch (c.watch payload marker deadline w w'.wallClock.1 [])
      w'.wallClock.2

variable {c seeds payload marker deadline} {w : World} {n : Network}

theorem relayTurns_of_channel {ch : Channel} {step : Option StepId} {w' : World}
    (seeded : c.seed seeds payload w = (.ok ch, step, w')) :
    c.relayTurns seeds payload marker deadline w =
      Watch.turns (ch.allowance w'.patience) ch
        (c.watch payload marker deadline w w'.wallClock.1 []) w'.wallClock.2 := by
  rw [relayTurns, seeded]

/--
A relay on a network that is online, with any store, of which a message with the marker reaches the
channel before the deadline. It completes with that message exactly if for it and for each one
before it the store leaves the relay time to turn to the channel before the deadline, as a store
that takes no time does. Otherwise the relay times out and has seen only some of those before it.
-/
theorem relay_completes_iff (network : w.transport = .network n) (online : n.offline = false)
    (accepted : relayRefusal? seeds payload marker deadline = none) {count : Nat}
    {before after : List Message} {m : Message}
    (came : c.reached seeds payload deadline n count w = before ++ m :: after)
    (silent : ∀ k ∈ before, ¬ k.Holds marker) (holds : m.Holds marker)
    (few : before.length < w.patience) :
    ∃ r, (c.relay seeds payload marker deadline w).1 = .ok r ∧ r.notes = [] ∧
      (r.Completes before m ∨ r.StopsShort before) ∧
      (r.Completes before m ↔
        ∀ t ∈ (c.relayTurns seeds payload marker deadline w).take (before.length + 1),
          t < w.now + deadline) ∧
      (c.recorder.IsPrompt w.journal → r.Completes before m) := by
  obtain ⟨step, w', seeded, patience, registry⟩ := c.seed_online seeds payload network online
  obtain ⟨log, s, ch', w'', elapsed, reads, done⟩ := c.relay_reads accepted seeded
  have sound : (c.dispatched seeds payload n w).Sound (w.now + deadline) := Hub.sound_publish _ _ _
  have few : before.length < (Channel.hub (c.dispatched seeds payload n w)).allowance w'.patience :=
    few.trans_eq patience.symm
  have notes : s.notes = [] := by
    rw [reads.notes, (reads.follows rfl registry sound).1]
    rfl
  have comes := reads.completes_or_stopsShort registry sound rfl rfl came silent holds few elapsed
  rw [← relayTurns_of_channel seeded] at comes
  refine ⟨s.result elapsed, congrArg Prod.fst done, notes, ?_⟩
  rcases comes with ⟨completes, inTime⟩ | ⟨stops, t, member, late⟩
  · exact ⟨Or.inl completes, iff_of_true completes inTime, fun _ => completes⟩
  · have tooLate : ¬ ∀ t ∈ (c.relayTurns seeds payload marker deadline w).take (before.length + 1),
        t < w.now + deadline :=
      fun inTime => absurd (inTime t member) (Nat.not_lt_of_le late)
    refine ⟨Or.inr stops, iff_of_false stops.not_completes tooLate, fun prompt => ?_⟩
    obtain ⟨_, _, seeded', -, attends⟩ := c.attends_seed network online prompt accepted
    cases seeded.symm.trans seeded'
    exact absurd stops (reads.not_stopsShort attends rfl came few elapsed)

end Coordinator

def Network.duet : Network :=
  let sooner := Participant.scripted [⟨.request, ⟨.payload (.string "part"), [], 1⟩⟩]
  let later := Participant.scripted [⟨.request, ⟨.payload (.string "end"), [], 2⟩⟩]
  ⟨(RecipientMap.empty.insert ⟨"a"⟩ sooner).insert ⟨"b"⟩ later, false, 0, [], fun _ => ⟨0, 0⟩⟩

def World.duet (script : List Disturbance) : World :=
  { rehearsal script with transport := .network Network.duet, patience := 2 }

namespace Coordinator

/-- When the part has been recorded after seven milliseconds, the end is read before the eighth. -/
theorem relay_completes_iff_rehearsal :
    ∃ r, (rehearsal.relay [⟨"a"⟩, ⟨"b"⟩] (.string "hi") "end" 8
        (World.duet [.stall 0, .stall 0, .stall 3, .stall 3])).1 = .ok r ∧
      r.isCompleted = true ∧ r.terminalPayload = some "end" ∧ r.observedHops.length = 2 := by
  have accepted : relayRefusal? [⟨"a"⟩, ⟨"b"⟩] (.string "hi") "end" 8 = none := by decide
  have heard : (rehearsal.reached [⟨"a"⟩, ⟨"b"⟩] (.string "hi") 8 Network.duet 4
      (World.duet [.stall 0, .stall 0, .stall 3, .stall 3])).map (fun m => m.body.hopText) =
        ["part", "end"] := by
    decide +kernel
  obtain ⟨k, rest, came, part, others⟩ := List.map_eq_cons_iff.1 heard
  obtain ⟨m, after, rfl, last, -⟩ := List.map_eq_cons_iff.1 others
  have silent : ∀ k' ∈ [k], ¬ k'.Holds "end" := by
    rw [List.forall_mem_singleton, Message.Holds, part]
    decide
  have holds : m.Holds "end" := by
    rw [Message.Holds, last]
  have inTime : ∀ t ∈ (rehearsal.relayTurns [⟨"a"⟩, ⟨"b"⟩] (.string "hi") "end" 8
      (World.duet [.stall 0, .stall 0, .stall 3, .stall 3])).take 2, t < 0 + 8 := by
    decide +kernel
  obtain ⟨r, done, -, -, found, -⟩ :=
    relay_completes_iff (n := Network.duet) rfl rfl accepted came silent holds Nat.one_lt_two
  obtain ⟨completed, payload, hops⟩ := found.2 inTime
  rw [last] at payload
  exact ⟨r, done, completed, payload, by simpa using congrArg List.length hops⟩

/--
Before the fifth it is not, though every access to the store is carried out and the end comes after
two milliseconds.
-/
theorem relay_misses_the_marker :
    TraceStore.admission rehearsal.recorder.storeTimeout.millis (.stall 3) = (.carriedOut, 3) ∧
      (rehearsal.reached [⟨"a"⟩, ⟨"b"⟩] (.string "hi") 5 Network.duet 4
        (World.duet [.stall 0, .stall 0, .stall 3, .stall 3])).map (fun m => m.body.hopText) =
          ["part", "end"] ∧
      (rehearsal.relay [⟨"a"⟩, ⟨"b"⟩] (.string "hi") "end" 5 (World.duet [])).1.toOption.map
        (fun r => (r.isCompleted, r.terminalPayload)) = some (true, some "end") ∧
      (rehearsal.relay [⟨"a"⟩, ⟨"b"⟩] (.string "hi") "end" 5
        (World.duet [.stall 0, .stall 0, .stall 3, .stall 3])).1.toOption.map
          (fun r => (r.timedOut, r.terminalPayload, r.observedHops.map fun h => h.body.hopText)) =
        some (true, none, ["part"]) := by
  decide +kernel

end Coordinator

end RollCall
