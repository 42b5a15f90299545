import RollCall.Proofs.Lockstep
import RollCall.Proofs.Relay
import RollCall.Proofs.Streaming

set_option autoImplicit false

/-!
Stores that take no time are not noticed. A broadcast, a stream and a relay come to the same, at the
same time and by the same use of the transport, whatever their stores refuse.
-/
namespace RollCall

namespace World

/-- The same but for the traces, over stores that take no time. -/
structure Steady (c : Coordinator) (w v : World) : Prop where
  alike : w.Alike v
  prompt : c.recorder.IsPrompt w.journal
  prompt' : c.recorder.IsPrompt v.journal

variable {c : Coordinator} {w v : World}

/-- What each of them records makes no difference. -/
theorem Steady.recorded (steady : Steady c w v) {j k : Journal}
    (first : c.recorder.Timeless w.journal j) (second : c.recorder.Timeless v.journal k) :
    Steady c { w with journal := j } { v with journal := k } := by
  obtain ⟨prompt, moment⟩ := first steady.prompt
  obtain ⟨prompt', moment'⟩ := second steady.prompt'
  have before : w.Alike { w with journal := j } := Alike.of_journal moment
  have after : v.Alike { v with journal := k } := Alike.of_journal moment'
  exact ⟨before.symm.trans (steady.alike.trans after), prompt, prompt'⟩

theorem Steady.receive (steady : Steady c w v) (ch : Channel) (limit : Nat) :
    Steady c (w.receive ch limit).2.2 (v.receive ch limit).2.2 :=
  ⟨(steady.alike.receive ch limit).2.2, steady.prompt, steady.prompt'⟩

theorem Steady.release (steady : Steady c w v) (ch : Channel) :
    Steady c (w.release ch) (v.release ch) :=
  ⟨steady.alike.release ch, steady.prompt, steady.prompt'⟩

theorem Steady.endStep (steady : Steady c w v) (id : RequestId) (step step' : Option StepId)
    (success : Bool) : Steady c (c.endStep id step success w) (c.endStep id step' success v) :=
  steady.recorded (c.endStep_timeless id step success w) (c.endStep_timeless id step' success v)

theorem Steady.startSteps (steady : Steady c w v) (id : RequestId) (participants : List String) :
    Steady c (c.startSteps id participants w).2 (c.startSteps id participants v).2 :=
  steady.recorded (c.startSteps_timeless id participants w) (c.startSteps_timeless id participants v)

theorem Steady.newRequest (steady : Steady c w v) (payload : Json) :
    (v.newRequest payload).1 = (w.newRequest payload).1 ∧
      Steady c (w.newRequest payload).2 (v.newRequest payload).2 := by
  obtain ⟨request, alike⟩ := steady.alike.newRequest payload
  exact ⟨request, alike, steady.prompt, steady.prompt'⟩

theorem Steady.connect (steady : Steady c w v) (topic : String) (recipients : List RecipientId)
    (request : Request) :
    (v.connect topic recipients request).1 = (w.connect topic recipients request).1 ∧
      Steady c (w.connect topic recipients request).2 (v.connect topic recipients request).2 := by
  obtain ⟨connected, alike⟩ := steady.alike.connect topic recipients request
  exact ⟨connected, alike, (w.takes_connect topic recipients request).isPrompt steady.prompt,
    (v.takes_connect topic recipients request).isPrompt steady.prompt'⟩

/-- Fan-outs over any channels go on alike in such worlds. -/
theorem lockstep_steady (c : Coordinator) (limit : Nat) :
    Lockstep c limit (fun _ => True) (Steady c) where
  patience steady := steady.alike.patience
  early steady early := by
    rw [steady.alike.now]
    exact early
  receive := by
    intro w v steady early ch held
    obtain ⟨reading, channel, alike⟩ := steady.alike.receive ch limit
    refine ⟨reading, channel, trivial, steady.receive ch limit, ?_⟩
    intro late
    rw [alike.now]
    exact late
  endStep steady := steady.endStep
  release steady := steady.release

end World

namespace Coordinator

open World

variable {c : Coordinator} {w v : World} (recipients : List RecipientId) (payload : Json)
  (deadline : Nat)

theorem abreast_setOut (steady : Steady c w v) :
    FanOut.Abreast c (w.now + deadline) (fun _ => True) (Steady c)
      (c.setOut recipients payload deadline w).1 (c.setOut recipients payload deadline w).2
      (c.setOut recipients payload deadline v).1 (c.setOut recipients payload deadline v).2 := by
  obtain ⟨request, asked⟩ := steady.newRequest payload
  have alike := FanOut.alike_start c (distinct recipients) (w.newRequest payload).1 deadline
    asked.alike
  obtain ⟨-, connected⟩ := asked.connect
    (c.topic "broadcast" (w.newRequest payload).1.requestId) (distinct recipients)
    (w.newRequest payload).1
  have opened := connected.startSteps (w.newRequest payload).1.requestId
    (c.label :: (distinct recipients).map RecipientId.text)
  rw [setOut_eq, setOut_eq, request]
  exact ⟨alike, opened, fun _ _ => trivial, rfl, rfl⟩

/-- The same reports are gathered, and at the end the worlds are alike. -/
theorem gathered_alike (steady : Steady c w v) :
    ∃ f w' g v' reports f' w'' g' v'',
      c.setOut recipients payload deadline w = (f, w') ∧
      c.setOut recipients payload deadline v = (g, v') ∧
      f.gather (f.slots.length + 1) w' = (reports, f', w'') ∧
      g.gather (g.slots.length + 1) v' = (reports, g', v'') ∧
      f'.Alike g' ∧ (f'.finish w'').2.Alike (g'.finish v'').2 := by
  have abreast := abreast_setOut recipients payload deadline steady
  have lockstep := lockstep_steady c (w.now + deadline)
  rcases started : c.setOut recipients payload deadline w with ⟨f, w'⟩
  rcases started' : c.setOut recipients payload deadline v with ⟨g, v'⟩
  have slots : g.slots.length = f.slots.length :=
    (length_slots_setOut c started').trans (length_slots_setOut c started).symm
  rw [started, started'] at abreast
  obtain ⟨reports, last⟩ := abreast.gather (f.slots.length + 1) lockstep (by
    intro w v steady late
    rw [steady.alike.now]
    exact late)
  rcases gathered : f.gather (f.slots.length + 1) w' with ⟨rs, f', w''⟩
  rcases gathered' : g.gather (f.slots.length + 1) v' with ⟨ss, g', v''⟩
  rw [gathered, gathered'] at reports last
  obtain rfl : ss = rs := reports
  have finished := (last.finished lockstep).2
  exact ⟨f, w', g, v', ss, f', w'', g', v'', rfl, rfl, gathered, slots ▸ gathered', last.alike,
    finished.alike⟩

theorem broadcast_alike (steady : Steady c w v) :
    (c.broadcast recipients payload deadline w).1 = (c.broadcast recipients payload deadline v).1 ∧
      (c.broadcast recipients payload deadline w).2.Alike
        (c.broadcast recipients payload deadline v).2 := by
  cases refused : broadcastRefusal? recipients payload deadline with
  | some refusal =>
    simp only [broadcast, refused]
    exact ⟨trivial, steady.alike⟩
  | none =>
    obtain ⟨f, w', g, v', reports, f', w'', g', v'', started, started', gathered, gathered', alike,
      finished⟩ := gathered_alike recipients payload deadline steady
    rw [broadcast_eq c w refused started gathered, broadcast_eq c v refused started' gathered',
      alike.requestId, alike.missing]
    exact ⟨rfl, finished⟩

/-- Streams are made alike, and tell the same one by one. -/
theorem stream_alike (steady : Steady c w v) :
    (c.stream recipients payload deadline w).1 = (c.stream recipients payload deadline v).1 ∧
      ∀ s, (c.stream recipients payload deadline w).1 = .ok s → ∀ count,
        (s.take count (c.stream recipients payload deadline w).2).1 =
            (s.take count (c.stream recipients payload deadline v).2).1 ∧
          (s.take count (c.stream recipients payload deadline w).2).2.2.Alike
            (s.take count (c.stream recipients payload deadline v).2).2.2 := by
  cases refused : broadcastRefusal? recipients payload deadline with
  | some refusal =>
    simp only [stream, refused]
    refine ⟨trivial, ?_⟩
    intro s made
    cases made
  | none =>
    obtain ⟨request, asked⟩ := steady.newRequest payload
    simp only [stream, refused, request]
    refine ⟨trivial, ?_⟩
    intro s made count
    cases made
    cases count with
    | zero => exact ⟨rfl, asked.alike⟩
    | succ count =>
      have abreast := abreast_setOut recipients payload deadline steady
      rw [setOut_eq, setOut_eq, request] at abreast
      rw [BroadcastStream.take_idle count rfl, BroadcastStream.take_idle count rfl]
      obtain ⟨told, beside⟩ := (StreamStage.Abreast.running abreast).take (count + 1)
        (w.newRequest payload).1.requestId (lockstep_steady c (w.now + deadline)) (by
          intro w v steady late
          rw [steady.alike.now]
          exact late)
      exact ⟨told.symm, beside.alike⟩

end Coordinator

namespace Watch

open World

variable {c : Coordinator} {s t : Watch} {w v : World}

theorem steady_wallClock (steady : Steady c w v) : Steady c w.wallClock.2 v.wallClock.2 := by
  have ticked (j : Journal) : Recorder.Idles j { j with clock := j.clock.tick } := ⟨rfl, rfl, rfl⟩
  exact steady.recorded (ticked w.journal).timeless (ticked v.journal).timeless

/-- The same but for when the last message was seen. -/
structure Alike (s t : Watch) : Prop where
  coordinator : t.coordinator = s.coordinator
  requestId : t.requestId = s.requestId
  marker : t.marker = s.marker
  deadline : t.deadline = s.deadline
  hops : t.hops = s.hops
  terminal : t.terminal = s.terminal
  notes : t.notes = s.notes

theorem Alike.result (alike : Alike s t) (elapsed : Nat) :
    t.result elapsed = s.result elapsed := by
  simp only [Watch.result, alike.requestId, alike.hops, alike.terminal, alike.notes]

/-- Both see a message in the same way, each at its own time. -/
theorem see_alike (alike : Alike s t) (steady : Steady c w v) (own : s.coordinator = c) (r : Reply) :
    Alike (s.see r w).1 (t.see r v).1 ∧ Steady c (s.see r w).2 (t.see r v).2 ∧
      (s.see r w).1.coordinator = c := by
  have recorded : Steady c
      (w.record (c.recorder.recordStep s.requestId r.sender.text s.since (!r.body.isRejected))).2
      (v.record (c.recorder.recordStep s.requestId r.sender.text t.since (!r.body.isRejected))).2 :=
    steady.recorded
      (Recorder.perform_timeless c.recorder s.requestId
        (.finished r.sender.text s.since (!r.body.isRejected)) w.journal)
      (Recorder.perform_timeless c.recorder s.requestId
        (.finished r.sender.text t.since (!r.body.isRejected)) v.journal)
  refine ⟨⟨alike.coordinator, alike.requestId, alike.marker, alike.deadline, ?_, ?_, alike.notes⟩,
    ?_, own⟩
  · simp only [see, alike.hops]
  · simp only [see, alike.marker]
  · simp only [see]
    rw [alike.coordinator, alike.requestId, own]
    exact steady_wallClock recorded

/-- Both read the same messages from the same channel. -/
theorem readOn_alike (allowance : Nat) (ch : Channel) (alike : Alike s t) (steady : Steady c w v)
    (own : s.coordinator = c) :
    (readOn allowance ch t v).1 = (readOn allowance ch s w).1 ∧
      Alike (readOn allowance ch s w).2.1 (readOn allowance ch t v).2.1 ∧
      Steady c (readOn allowance ch s w).2.2 (readOn allowance ch t v).2.2 := by
  induction allowance generalizing ch s t w v with
  | zero => exact ⟨rfl, alike, steady⟩
  | succ allowance ih =>
    rw [readOn, readOn, alike.deadline, steady.alike.now]
    split
    · exact ⟨rfl, alike, steady⟩
    · obtain ⟨reading, channel, -⟩ := steady.alike.receive ch s.deadline
      have received := steady.receive ch s.deadline
      generalize w.receive ch s.deadline = a at reading channel received ⊢
      generalize v.receive ch s.deadline = b at reading channel received ⊢
      obtain ⟨read, ch', w'⟩ := a
      obtain ⟨read', ch'', v'⟩ := b
      obtain rfl : read' = read := reading
      obtain rfl : ch'' = ch' := channel
      cases read' with
      | cutOff => exact ⟨rfl, alike, received⟩
      | nothing => exact ih ch'' alike received own
      | failed e =>
        exact ⟨rfl, ⟨alike.coordinator, alike.requestId, alike.marker, rfl, alike.hops,
          alike.terminal, congrArg (· ++ [FanOut.brokenNote e]) alike.notes⟩, received⟩
      | message m =>
        obtain ⟨seen, recorded, still⟩ := see_alike alike received own m
        dsimp only
        rw [seen.terminal]
        split
        · exact ⟨rfl, seen, recorded⟩
        · exact ih ch'' seen recorded still

end Watch

namespace Coordinator

open World

variable {c : Coordinator} {w v : World} (seeds : List RecipientId) (payload : Json)
  (marker : String) (deadline : Nat)

theorem steady_seed (steady : Steady c w v) :
    (c.seed seeds payload v).1 = (c.seed seeds payload w).1 ∧
      Steady c (c.seed seeds payload w).2.2 (c.seed seeds payload v).2.2 := by
  obtain ⟨asking, asked⟩ := steady.newRequest payload
  have opened := asked.startSteps (w.newRequest payload).1.requestId [c.label]
  simp only [seed, asking]
  exact opened.connect _ seeds _

theorem relay_alike (steady : Steady c w v) :
    (c.relay seeds payload marker deadline w).1 = (c.relay seeds payload marker deadline v).1 ∧
      (c.relay seeds payload marker deadline w).2.Alike
        (c.relay seeds payload marker deadline v).2 := by
  cases refused : relayRefusal? seeds payload marker deadline with
  | some refusal =>
    rw [c.relay_of_refused refused, c.relay_of_refused refused]
    exact ⟨rfl, steady.alike⟩
  | none =>
    obtain ⟨asking, -⟩ := steady.newRequest payload
    obtain ⟨same, seeded⟩ := steady_seed seeds payload steady
    have since (x y : Timestamp) (notes : List String) : Watch.Alike
        (c.watch payload marker deadline w x notes) (c.watch payload marker deadline v y notes) :=
      ⟨rfl, congrArg Request.requestId asking, rfl, congrArg (· + deadline) steady.alike.now, rfl,
        rfl, rfl⟩
    rcases outset : c.seed seeds payload w with ⟨outcome, step, w'⟩
    rcases outset' : c.seed seeds payload v with ⟨outcome', step', v'⟩
    rw [outset, outset'] at same seeded
    obtain rfl : outcome' = outcome := same
    dsimp only at seeded
    cases outcome' with
    | error fault =>
      have ended := (since w'.clock.reading v'.clock.reading
        [fault.relayText (c.topic "relay" (w.newRequest payload).1.requestId)]).result
          (w'.now - w.now)
      have closed := seeded.endStep (w.newRequest payload).1.requestId step step' false
      rw [c.relay_of_fault refused outset, c.relay_of_fault refused outset', asking,
        steady.alike.now, seeded.alike.now]
      exact ⟨congrArg Except.ok ended.symm, closed.alike⟩
    | ok ch =>
      have patience : v'.patience = w'.patience := seeded.alike.patience
      have both := Watch.readOn_alike (ch.allowance w'.patience) ch
        (since w'.wallClock.1 v'.wallClock.1 []) (Watch.steady_wallClock seeded) rfl
      rcases watched : Watch.readOn (ch.allowance w'.patience) ch
        (c.watch payload marker deadline w w'.wallClock.1 []) w'.wallClock.2 with ⟨ch', s, w''⟩
      rcases watched' : Watch.readOn (ch.allowance v'.patience) ch
        (c.watch payload marker deadline v v'.wallClock.1 []) v'.wallClock.2 with ⟨ch'', t, v''⟩
      rw [watched, ← patience, watched'] at both
      obtain ⟨channel, seen, still⟩ := both
      obtain rfl : ch'' = ch' := channel
      have released := still.release ch''
      have closed := released.endStep (w.newRequest payload).1.requestId step step'
        s.terminal.isSome
      rw [c.relay_of_channel refused outset watched, c.relay_of_channel refused outset' watched',
        asking, steady.alike.now, released.alike.now, seen.terminal]
      exact ⟨congrArg Except.ok (seen.result _).symm, closed.alike⟩

/--
Two worlds that are the same but for their traces, over stores that take no time, whatever they
refuse. A broadcast comes to the same in both, a stream tells the same events, each at the same
time, and a relay has the same result. Each time both worlds are at the same moment afterwards and
their transports have been used in the same way.
-/
theorem calls_undisturbed {w v : World} (alike : w.Alike v) (prompt : c.recorder.IsPrompt w.journal)
    (prompt' : c.recorder.IsPrompt v.journal) (recipients : List RecipientId) (payload : Json)
    (marker : String) (deadline : Nat) :
    ((c.broadcast recipients payload deadline w).1 =
        (c.broadcast recipients payload deadline v).1 ∧
      (c.broadcast recipients payload deadline w).2.Alike
        (c.broadcast recipients payload deadline v).2) ∧
    ((c.stream recipients payload deadline w).1 = (c.stream recipients payload deadline v).1 ∧
      ∀ s, (c.stream recipients payload deadline w).1 = .ok s → ∀ count,
        (s.take count (c.stream recipients payload deadline w).2).1 =
            (s.take count (c.stream recipients payload deadline v).2).1 ∧
          (s.take count (c.stream recipients payload deadline w).2).2.2.Alike
            (s.take count (c.stream recipients payload deadline v).2).2.2) ∧
    (c.relay recipients payload marker deadline w).1 =
        (c.relay recipients payload marker deadline v).1 ∧
      (c.relay recipients payload marker deadline w).2.Alike
        (c.relay recipients payload marker deadline v).2 := by
  have steady : Steady c w v := ⟨alike, prompt, prompt'⟩
  exact ⟨broadcast_alike recipients payload deadline steady,
    stream_alike recipients payload deadline steady,
    relay_alike recipients payload marker deadline steady⟩

/-- A store that refuses the first write, as if it had not. -/
theorem calls_undisturbed_rehearsal :
    (rehearsal.broadcast [⟨"a"⟩, ⟨"b"⟩, ⟨"a"⟩, ⟨"c"⟩] (.string "hi") 50
          (World.rehearsal [.proceed, .refuse])).1 =
        (rehearsal.broadcast [⟨"a"⟩, ⟨"b"⟩, ⟨"a"⟩, ⟨"c"⟩] (.string "hi") 50
          (World.rehearsal [])).1 ∧
      (rehearsal.relay [⟨"a"⟩, ⟨"b"⟩, ⟨"a"⟩, ⟨"c"⟩] (.string "hi") "yes" 50
          (World.rehearsal [.proceed, .refuse])).1 =
        (rehearsal.relay [⟨"a"⟩, ⟨"b"⟩, ⟨"a"⟩, ⟨"c"⟩] (.string "hi") "yes" 50
          (World.rehearsal [])).1 := by
  have alike : (World.rehearsal [.proceed, .refuse]).Alike (World.rehearsal []) :=
    ⟨rfl, rfl, rfl, rfl, rfl, rfl⟩
  have prompt : rehearsal.recorder.IsPrompt (World.rehearsal [.proceed, .refuse]).journal := by
    intro d member
    rcases List.mem_cons.1 member with rfl | later
    · rfl
    · rw [List.mem_singleton.1 later]
      rfl
  have prompt' : rehearsal.recorder.IsPrompt (World.rehearsal []).journal := by
    intro d member
    cases member
  obtain ⟨⟨outcome, -⟩, -, result, -⟩ := rehearsal.calls_undisturbed alike prompt prompt'
    [⟨"a"⟩, ⟨"b"⟩, ⟨"a"⟩, ⟨"c"⟩] (.string "hi") "yes" 50
  exact ⟨outcome, result⟩

end Coordinator

end RollCall
