import RollCall.Proofs.Relaying

set_option autoImplicit false

/-!
How the reading of a script ends. Each wait uses up the next event or is the last one, however long
the events take and whatever comes of them, so that there is one wait more than there are events at
most. No limit on how often a channel may be read has a part in this. A fan-out that has no channel
does not read at all, and ends when everybody has reported.
-/
namespace RollCall

namespace Playback

/--
What a script gives to somebody who waits time and again, with the events that are left: each wait
uses up the next event, unless it is the last one and is cut off.
-/
inductive Gives : List ScriptedEvent → List Reading → List ScriptedEvent → Prop
  | nothing (events : List ScriptedEvent) : Gives events [] events
  | cutOff (events : List ScriptedEvent) : Gives events [.cutOff] events
  | came {e : ScriptedEvent} {events left : List ScriptedEvent} {readings : List Reading}
      (later : Gives events readings left) : Gives (e :: events) (e.reading :: readings) left

theorem Gives.length_le {events left : List ScriptedEvent} {readings : List Reading}
    (gives : Gives events readings left) :
    readings.length + left.length ≤ events.length + 1 := by
  induction gives with
  | nothing events =>
    rw [List.length_nil]
    omega
  | cutOff events =>
    rw [List.length_singleton]
    omega
  | came later ih =>
    rw [List.length_cons, List.length_cons]
    omega

end Playback

theorem Call.readings_map_read (readings : List Reading) :
    Call.readings (readings.map Call.read) = readings := by
  rw [Call.readings, List.filterMap_map]
  exact List.filterMap_some

/-- What a wait that is not cut off comes to is the next event. -/
theorem World.came_of_receive {w w' : World} {p : Playback} (scripted : w.transport = .playback p)
    {script : PlaybackChannel} {limit : Nat} {reading : Reading} {c : Channel}
    (read : w.receive (.playback script) limit = (reading, c, w')) (heard : reading ≠ .cutOff) :
    w'.transport = .playback p ∧ ∃ (e : ScriptedEvent) (rest : PlaybackChannel),
      c = .playback rest ∧ script.events = e :: rest.events ∧ reading = e.reading := by
  obtain ⟨still, rest, same, ⟨e, next, came⟩ | ⟨-, cut, -⟩⟩ := World.came_or_cutOff scripted read
  · exact ⟨still, e, rest, same, next, came⟩
  · exact absurd cut heard

namespace FanOut

/-- There is no way of going on for ever. -/
def Ends (f : FanOut) (w : World) : Prop :=
  Acc (fun after before : FanOut × World =>
    ∃ log r, Step before.1 before.2 log r after.1 after.2) (f, w)

def Rests (f : FanOut) (w : World) : Prop := ∀ log r f' w', ¬ Step f w log r f' w'

variable {f f' : FanOut} {w w' : World} {log : List Call} {r : Option Resolution}
  {rs : List Resolution} {events : List ScriptedEvent}

theorem Scripted.came (scripted : f.Scripted events w) {c c' : Channel} (awaits : f.Awaits w c)
    {reading : Reading} (read : w.receive c f.deadline = (reading, c', w'))
    (heard : reading ≠ .cutOff) :
    ∃ e rest, events = e :: rest ∧ [reading] = [e.reading] ∧
      Scripted { f with channel := some c' } rest w' := by
  rcases scripted.heard awaits read with ⟨e, rest, next, same, still⟩ | ⟨cut, -⟩
  · exact ⟨e, rest, next, congrArg (fun reading => [reading]) same, still⟩
  · exact absurd cut heard

/-- A step uses up the next event, or finds that time is up. -/
theorem Step.scripted (step : Step f w log r f' w') (scripted : f.Scripted events w) :
    (∃ e rest, events = e :: rest ∧ Call.readings log = [e.reading] ∧ f'.Scripted rest w') ∨
      Call.readings log = [.cutOff] ∧ f'.Scripted events w' ∧ f'.Over w' := by
  cases step with
  | refused failed pending => simp [scripted.setup] at failed
  | cutOff awaits read =>
    rcases scripted.heard awaits read with ⟨e, rest, -, cut, -⟩ | ⟨-, still, late⟩
    · exact absurd cut.symm e.reading_ne_cutOff
    · exact .inr ⟨rfl, still, .inr (.inl late)⟩
  | idle awaits read => exact .inl (scripted.came awaits read (by simp))
  | ignored awaits read unknown => exact .inl (scripted.came awaits read (by simp))
  | broken awaits read =>
    obtain ⟨e, rest, next, same, still⟩ := scripted.came awaits read (by simp)
    obtain ⟨p, transport⟩ := still.transport
    refine .inl ⟨e, rest, next, same, still.setup, ⟨p, ?_⟩, by simp⟩
    simp [World.release, transport, Transport.release]
  | reported awaits read known =>
    obtain ⟨e, rest, next, same, still⟩ := scripted.came awaits read (by simp)
    exact .inl ⟨e, rest, next, same, still.setup, still.transport, still.channel⟩

theorem Scripted.rests (scripted : f.Scripted events w) (ended : f.Over w) : f.Rests w := by
  intro log r f' w' step
  obtain ⟨nothing, -⟩ := step.run.eq_of_over scripted.setup ended
  subst nothing
  rcases step.scripted scripted with ⟨e, rest, -, read, -⟩ | ⟨read, -⟩
  · cases read
  · cases read

/-- Over a run each wait but the last uses up an event. -/
theorem Run.scripted (run : Run f w log rs f' w') (scripted : f.Scripted events w) :
    ∃ left, Playback.Gives events (Call.readings log) left ∧ f'.Scripted left w' := by
  induction run generalizing events with
  | refl => exact ⟨events, .nothing events, scripted⟩
  | step first rest ih =>
    rw [Call.readings_append]
    rcases first.scripted scripted with ⟨e, later, rfl, read, still⟩ | ⟨read, still, ended⟩
    · obtain ⟨left, gives, last⟩ := ih still
      rw [read]
      exact ⟨left, gives.came, last⟩
    · obtain ⟨rfl, -, rfl, rfl⟩ := rest.eq_of_over still.setup ended
      rw [read]
      exact ⟨events, .cutOff events, still⟩

/-- A fan-out ends because each step leaves one event fewer, or nothing to do after it. -/
theorem Scripted.ends (scripted : f.Scripted events w) : f.Ends w := by
  -- Time may stand still and nobody need report, but the events run out.
  induction events generalizing f w with
  | nil =>
    refine Acc.intro _ fun after one => ?_
    obtain ⟨log, r, step⟩ := one
    rcases step.scripted scripted with ⟨e, rest, more, -⟩ | ⟨-, still, ended⟩
    · cases more
    · exact Acc.intro _ fun _ ⟨log, r, step⟩ => absurd step (still.rests ended _ _ _ _)
  | cons e rest ih =>
    refine Acc.intro _ fun after one => ?_
    obtain ⟨log, r, step⟩ := one
    rcases step.scripted scripted with ⟨e, rest, same, -, still⟩ | ⟨-, still, ended⟩
    · cases same
      exact ih still
    · exact Acc.intro _ fun _ ⟨log, r, step⟩ => absurd step (still.rests ended _ _ _ _)

/-- Gathering more reports than anybody owes goes on until there is nothing left to do. -/
theorem Scripted.gather_rests (scripted : f.Scripted events w) {count : Nat}
    (enough : f.missing.length < count) (gathered : f.gather count w = (rs, f', w')) :
    ∃ log, Run f w log rs f' w' ∧ f'.Rests w' := by
  obtain ⟨g, v, log, run, last⟩ := gather_last count f w enough
  rw [gathered] at run last
  obtain ⟨later, rest⟩ := next_run g v
  rw [last] at rest
  have whole := run.trans rest
  rw [Option.toList_none, List.append_nil] at whole
  obtain ⟨_, -, still⟩ := run.scripted scripted
  obtain ⟨_, -, stillLater⟩ := whole.scripted scripted
  exact ⟨log ++ later, whole, stillLater.rests (still.next_over last)⟩

theorem scripted_start {p : Playback} (c : Coordinator) (recipients : List RecipientId)
    (request : Request) (wait : Nat) (scripted : w.transport = .playback p)
    (some : p.events? = some events) :
    (start c recipients request wait w).1.Scripted events (start c recipients request wait w).2 := by
  obtain ⟨script, connected, rfl, q, transport⟩ := World.connect_of_script
    (c.topic "broadcast" request.requestId) recipients request scripted some
  refine ⟨?_, ⟨q, transport⟩, ?_⟩
  · simp only [start, connected]
  · intro ch held
    simp only [start, connected] at held
    cases held
    exact ⟨script, rfl, rfl⟩

/-- Without a channel everybody reports once, and then nobody does at any time. -/
theorem gather_refused_next {failure : String} (setup : f.setupFailure = some failure)
    (once : f.missing.Nodup) {count : Nat} (enough : f.missing.length < count) (w : World) :
    ∃ f' w', f.gather count w = (f.missing.map (Resolution.refused failure), f', w') ∧
      ∀ u, f'.next u = (none, f', u) := by
  rcases gathered : f.gather count w with ⟨rs, f', w'⟩
  obtain ⟨rfl, done⟩ := gather_refused setup once enough gathered
  obtain ⟨log, run⟩ := gather_run count f w
  rw [gathered] at run
  refine ⟨f', w', rfl, fun u => ?_⟩
  have setupLater : f'.setupFailure = some failure := run.sameCall.setupFailure.trans setup
  have nobody : f'.firstPending? = none := by
    rw [firstPending?_eq_head?, done, List.head?_nil]
  simp only [next, setupLater, nobody]

end FanOut

namespace Watch

/-- A watch that ends by itself: it reads this and no more, however much more it may read. -/
def Ends (s : Watch) (c : Channel) (w : World) (log : List Reading) (s' : Watch) (c' : Channel)
    (w' : World) : Prop :=
  ∃ least, ∀ n, least ≤ n → Reads n s c w log s' c' w'

variable {n : Nat} {s s' : Watch} {c c' : Channel} {w w' : World} {log : List Reading} {p : Playback}
  {script : PlaybackChannel}

/-- What is read of a script is what it gives. -/
theorem Reads.gives (reads : Reads n s c w log s' c' w') (held : c = .playback script)
    (scripted : w.transport = .playback p) : ∃ left, Playback.Gives script.events log left := by
  induction reads generalizing script with
  | weary => exact ⟨_, .nothing _⟩
  | late => exact ⟨_, .nothing _⟩
  | cutOff => exact ⟨_, .cutOff _⟩
  | broken early read =>
    subst held
    obtain ⟨-, e, rest, -, next, same⟩ := World.came_of_receive scripted read (by simp)
    rw [next, same]
    exact ⟨_, .came (.nothing _)⟩
  | marked early read holds =>
    subst held
    obtain ⟨-, e, rest, -, next, same⟩ := World.came_of_receive scripted read (by simp)
    rw [next, same]
    exact ⟨_, .came (.nothing _)⟩
  | idle early read _ ih =>
    subst held
    obtain ⟨still, e, rest, rfl, next, same⟩ := World.came_of_receive scripted read (by simp)
    obtain ⟨left, later⟩ := ih rfl still
    rw [next, same]
    exact ⟨left, .came later⟩
  | hop early read unmarked _ ih =>
    subst held
    obtain ⟨still, e, rest, rfl, next, same⟩ := World.came_of_receive scripted read (by simp)
    obtain ⟨left, later⟩ := ih rfl still
    rw [next, same]
    exact ⟨left, .came later⟩

/-- If it may be read more often than there are events, how often does not matter. -/
theorem Reads.again (reads : Reads n s c w log s' c' w') (held : c = .playback script)
    (scripted : w.transport = .playback p) (enough : script.events.length < n) {m : Nat}
    (more : script.events.length ≤ m) : Reads (m + 1) s c w log s' c' w' := by
  induction reads generalizing script m with
  | weary => omega
  | late late => exact .late late
  | cutOff early read => exact .cutOff early read
  | broken early read => exact .broken early read
  | marked early read holds => exact .marked early read holds
  | idle early read _ ih =>
    subst held
    obtain ⟨still, e, rest, rfl, next, -⟩ := World.came_of_receive scripted read (by simp)
    rw [next, List.length_cons] at enough more
    cases m with
    | zero => omega
    | succ m => exact .idle early read (ih rfl still (by omega) (by omega))
  | hop early read unmarked _ ih =>
    subst held
    obtain ⟨still, e, rest, rfl, next, -⟩ := World.came_of_receive scripted read (by simp)
    rw [next, List.length_cons] at enough more
    cases m with
    | zero => omega
    | succ m => exact .hop early read unmarked (ih rfl still (by omega) (by omega))

theorem Reads.ends (reads : Reads n s c w log s' c' w') (held : c = .playback script)
    (scripted : w.transport = .playback p) (enough : script.events.length < n) :
    Ends s c w log s' c' w' := by
  refine ⟨script.events.length + 1, fun m more => ?_⟩
  cases m with
  | zero => omega
  | succ m => exact reads.again held scripted enough (by omega)

/-- The transport is used for reading only. -/
theorem Reads.calls (reads : Reads n s c w log s' c' w') :
    w'.calls = (log.map Call.read).reverse ++ w.calls := by
  have logged {limit : Nat} {c c' : Channel} {reading : Reading} {w v : World}
      (read : w.receive c limit = (reading, c', v)) : v.calls = .read reading :: w.calls := by
    cases read
    rfl
  induction reads with
  | weary => rfl
  | late => rfl
  | cutOff early read => exact logged read
  | broken early read => exact logged read
  | @marked _ s _ _ _ w' m early read holds =>
    have seen : (s.see m w').2.calls = w'.calls := rfl
    rw [seen]
    exact logged read
  | idle early read _ ih =>
    rw [ih, logged read, List.map_cons, List.reverse_cons, List.append_assoc, List.singleton_append]
  | @hop _ s _ _ _ _ w w' _ m _ early read unmarked _ ih =>
    have seen : (s.see m w').2.calls = w'.calls := rfl
    rw [ih, seen, logged read, List.map_cons, List.reverse_cons, List.append_assoc,
      List.singleton_append]

end Watch

namespace Coordinator

variable (c : Coordinator) {w : World} {p : Playback} {events : List ScriptedEvent}

/--
A broadcast on a channel with these events comes to an end: its fan-out cannot go on for ever, and
what it comes to is what it comes to when there is nothing left to do. Each wait uses up an event or
is the last.
-/
structure BroadcastEnds (recipients : List RecipientId) (payload : Json) (deadline : Nat)
    (events : List ScriptedEvent) (w : World) : Prop where
  ends : (c.setOut recipients payload deadline w).1.Ends (c.setOut recipients payload deadline w).2
  settles : ∃ log rs f w', FanOut.Run (c.setOut recipients payload deadline w).1
      (c.setOut recipients payload deadline w).2 log rs f w' ∧ f.Rests w' ∧
    c.broadcast recipients payload deadline w =
      (.ok (.ofReports f.requestId rs f.missing), (f.finish w').2)
  reads : ∃ log left, (c.broadcast recipients payload deadline w).2.calls = log.reverse ++ w.calls ∧
    Playback.Gives events (Call.readings log) left ∧ (Call.readings log).length ≤ events.length + 1

/-- A relay on a channel with these events ends by itself. -/
structure RelayEnds (seeds : List RecipientId) (payload : Json) (marker : String) (deadline : Nat)
    (events : List ScriptedEvent) (w : World) : Prop where
  settles : ∃ ch step w' log s ch' w'' elapsed, c.seed seeds payload w = (.ok ch, step, w') ∧
    Watch.Ends (c.watch payload marker deadline w w'.wallClock.1 []) ch w'.wallClock.2 log s ch' w'' ∧
    c.relay seeds payload marker deadline w = (.ok (s.result elapsed),
      c.endStep (w.newRequest payload).1.requestId step s.terminal.isSome (w''.release ch'))
  reads : ∃ log left, (c.relay seeds payload marker deadline w).2.calls = log.reverse ++ w.calls ∧
    Playback.Gives events (Call.readings log) left ∧ (Call.readings log).length ≤ events.length + 1

theorem broadcastEnds {recipients : List RecipientId} {payload : Json} {deadline : Nat}
    (accepted : broadcastRefusal? recipients payload deadline = none)
    (scripted : w.transport = .playback p) (some : p.events? = some events) :
    c.BroadcastEnds recipients payload deadline events w := by
  have asked : (w.newRequest payload).2.transport = .playback p := scripted
  have outset := FanOut.scripted_start c (distinct recipients) (w.newRequest payload).1 deadline asked
    some
  rw [← setOut_eq] at outset
  rcases started : c.setOut recipients payload deadline w with ⟨f, w'⟩
  rw [started] at outset
  obtain ⟨-, enough⟩ := missing_lt_slots c started
  rcases gathered : f.gather (f.slots.length + 1) w' with ⟨reports, f', w''⟩
  obtain ⟨log, run, rests⟩ := outset.gather_rests enough gathered
  obtain ⟨left, gives, -⟩ := run.scripted outset
  obtain ⟨whole, calls, readings⟩ := FanOut.calls_throughout started run
  have done := broadcast_eq c w accepted started gathered
  refine ⟨?_, ?_, ?_⟩
  · rw [started]
    exact outset.ends
  · rw [started]
    exact ⟨log, reports, f', w'', run, rests, done⟩
  · rw [done]
    rw [← readings] at gives
    have most := gives.length_le
    exact ⟨whole, left, calls, gives, by omega⟩

/-- A relay puts its request on the channel before it reads. -/
theorem seed_of_script (seeds : List RecipientId) (payload : Json)
    (scripted : w.transport = .playback p) (some : p.events? = some events) :
    ∃ script step w', c.seed seeds payload w = (.ok (.playback script), step, w') ∧
      script.events = events ∧ (∃ q, w'.transport = .playback q) ∧
      ∃ log, w'.calls = log.reverse ++ w.calls ∧ Call.readings log = [] := by
  have asked : (c.startSteps (w.newRequest payload).1.requestId [c.label]
      (w.newRequest payload).2).2.transport = .playback p := scripted
  obtain ⟨script, connected, rfl, q, transport⟩ := World.connect_of_script
    (c.topic "relay" (w.newRequest payload).1.requestId) seeds (w.newRequest payload).1 asked some
  obtain ⟨log, calls, silent⟩ := World.calls_connect
    (c.topic "relay" (w.newRequest payload).1.requestId) seeds (w.newRequest payload).1
    (c.startSteps (w.newRequest payload).1.requestId [c.label] (w.newRequest payload).2).2
  rcases seeded : c.seed seeds payload w with ⟨outcome, step, w'⟩
  obtain rfl : outcome = .ok (.playback script) :=
    (congrArg Prod.fst seeded).symm.trans connected
  have world := congrArg (fun a => a.2.2) seeded
  refine ⟨script, step, w', rfl, rfl, ⟨q, ?_⟩, log, ?_, silent⟩
  · exact (congrArg World.transport world).symm.trans transport
  · exact (congrArg World.calls world).symm.trans calls

theorem relayEnds {seeds : List RecipientId} {payload : Json} {marker : String} {deadline : Nat}
    (accepted : relayRefusal? seeds payload marker deadline = none)
    (scripted : w.transport = .playback p) (some : p.events? = some events) :
    c.RelayEnds seeds payload marker deadline events w := by
  obtain ⟨script, step, w', seeded, rfl, ⟨q, transport⟩, early, calls, silent⟩ :=
    c.seed_of_script seeds payload scripted some
  obtain ⟨log, s, ch, w'', elapsed, reads, done⟩ := c.relay_reads accepted seeded
  have listening : w'.wallClock.2.transport = .playback q := transport
  have ends := reads.ends rfl listening (Nat.lt_succ_self _)
  obtain ⟨left, gives⟩ := reads.gives rfl listening
  refine ⟨⟨_, step, w', log, s, ch, w'', elapsed, seeded, ends, done⟩, ?_⟩
  have whole : Call.readings (early ++ (log.map Call.read ++ [.release ch.unread])) = log := by
    rw [Call.readings_append, Call.readings_append, silent, Call.readings_map_read]
    exact List.append_nil log
  have most := gives.length_le
  rw [done]
  refine ⟨early ++ (log.map Call.read ++ [.release ch.unread]), left, ?_, ?_, ?_⟩
  · have before : w'.wallClock.2.calls = w'.calls := rfl
    show .release ch.unread :: w''.calls = _
    rw [reads.calls, before, calls]
    simp
  · rw [whole]
    exact gives
  · rw [whole]
    omega

/--
Over a script whose channel opens and takes the request, after any time, and over any store, a
broadcast and a relay come to an end by themselves; each of their waits uses up the next event or is
their last, so that they make one more than there are events at most. In any world a fan-out without
a channel reports for each of its recipients once, and then for nobody.
-/
theorem readings_end (scripted : w.transport = .playback p) (some : p.events? = some events) :
    (∀ recipients payload deadline, broadcastRefusal? recipients payload deadline = none →
      c.BroadcastEnds recipients payload deadline events w) ∧
    (∀ seeds payload marker deadline, relayRefusal? seeds payload marker deadline = none →
      c.RelayEnds seeds payload marker deadline events w) ∧
    ∀ (v : World) recipients payload deadline failure,
      (c.setOut recipients payload deadline v).1.setupFailure = .some failure →
      ∀ count, (distinct recipients).length < count → ∃ f v',
        (c.setOut recipients payload deadline v).1.gather count
            (c.setOut recipients payload deadline v).2 =
          ((distinct recipients).map (Resolution.refused failure), f, v') ∧
        ∀ u, f.next u = (none, f, u) := by
  refine ⟨fun _ _ _ accepted => c.broadcastEnds accepted scripted some,
    fun _ _ _ _ accepted => c.relayEnds accepted scripted some, ?_⟩
  intro v recipients payload deadline failure setup count enough
  have owed := missing_setOut c recipients payload deadline v
  rw [← owed] at enough ⊢
  exact FanOut.gather_refused_next setup (owed ▸ distinct_nodup recipients) enough _

def rehearsalOn (channels : List ScriptedChannel) : World :=
  { World.rehearsal [.refuse, .stall 3] with transport := .playback ⟨[], channels⟩ }

/--
On a channel that takes a while to set up and then says three times at once that there is nothing,
the fourth wait is the last. Where there is no channel both who are asked report, and then nobody.
-/
theorem readings_end_rehearsal :
    (∃ log, (rehearsal.broadcast [⟨"a"⟩, ⟨"b"⟩, ⟨"a"⟩] (.string "hi") 50 (rehearsalOn
          [⟨some 7, none, some 2, none, List.replicate 3 ⟨0, .ok none⟩⟩])).2.calls = log.reverse ∧
      (Call.readings log).length ≤ 4) ∧
    (∃ log, (rehearsal.relay [⟨"a"⟩] (.string "hi") "end" 50 (rehearsalOn
          [⟨some 7, none, some 2, none, List.replicate 3 ⟨0, .ok none⟩⟩])).2.calls = log.reverse ∧
      (Call.readings log).length ≤ 4) ∧
    ∃ rs f w, (rehearsal.setOut [⟨"a"⟩, ⟨"b"⟩, ⟨"a"⟩] (.string "hi") 50 (rehearsalOn [])).1.gather 3
        (rehearsal.setOut [⟨"a"⟩, ⟨"b"⟩, ⟨"a"⟩] (.string "hi") 50 (rehearsalOn [])).2 = (rs, f, w) ∧
      rs.map Resolution.sender = [⟨"a"⟩, ⟨"b"⟩] ∧ f.next w = (none, f, w) := by
  obtain ⟨broadcast, relay, unheard⟩ := rehearsal.readings_end
    (w := rehearsalOn [⟨some 7, none, some 2, none, List.replicate 3 ⟨0, .ok none⟩⟩]) rfl rfl
  obtain ⟨log, -, calls, -, most⟩ :=
    (broadcast [⟨"a"⟩, ⟨"b"⟩, ⟨"a"⟩] (.string "hi") 50 (by decide)).reads
  obtain ⟨log', -, calls', -, most'⟩ := (relay [⟨"a"⟩] (.string "hi") "end" 50 (by decide)).reads
  obtain ⟨f, w, gathered, nobody⟩ := unheard (rehearsalOn []) [⟨"a"⟩, ⟨"b"⟩, ⟨"a"⟩] (.string "hi") 50
    _ rfl 3 (by decide)
  exact ⟨⟨log, calls.trans (List.append_nil _), most⟩,
    ⟨log', calls'.trans (List.append_nil _), most'⟩, _, f, w, gathered, by decide, nobody w⟩

end Coordinator

end RollCall
