import RollCall.Proofs.Standing

set_option autoImplicit false

/-!
The trace of a broadcast over a healthy store is its outcome over again: the coordinator's step says
whether it is complete, and each recipient's step whether it answered, failed or is missing.
-/
namespace RollCall

namespace RequestTrace

theorem insertByStart_of_last {s : Step} {ordered : List Step}
    (last : ∀ t ∈ ordered, t.startTime ≤ s.startTime) : insertByStart s ordered = ordered ++ [s] := by
  induction ordered with
  | nil => rfl
  | cons t rest ih =>
    rw [insertByStart, if_pos (last t List.mem_cons_self),
      ih fun u member => last u (List.mem_cons_of_mem _ member)]
    rfl

/-- Steps that are in order of their start stay where they are. -/
theorem sorted_of_ordered {t : RequestTrace}
    (ordered : (t.steps.map Step.startTime).Pairwise (· ≤ ·)) : t.sorted = t := by
  have inserted (before steps : List Step)
      (ordered : ((before ++ steps).map Step.startTime).Pairwise (· ≤ ·)) :
      steps.foldl (fun sorted s => insertByStart s sorted) before = before ++ steps := by
    induction steps generalizing before with
    | nil => exact (List.append_nil before).symm
    | cons s rest ih =>
      rw [List.append_cons] at ordered ⊢
      rw [List.foldl_cons, insertByStart_of_last, ih (before ++ [s]) ordered]
      intro t member
      rw [List.map_append, List.map_append, List.pairwise_append, List.pairwise_append] at ordered
      exact ordered.1.2.2 _ (List.mem_map_of_mem member) _ List.mem_cons_self
  rw [sorted, inserted [] t.steps ordered]
  rfl

end RequestTrace

/-- A trace whose steps are in order is read as it is stored. -/
theorem Recorder.trace_of_held {r : Recorder} {Sound : Journal → Prop} {id : RequestId}
    {t : RequestTrace} {j : Journal} (retains : r.Retains Sound) (healthy : ¬ r.Falters Sound)
    (sound : Sound j) (held : j.held id = some t)
    (ordered : (t.steps.map Step.startTime).Pairwise (· ≤ ·)) : (r.trace id j).1 = t := by
  rw [trace_of_healthy retains healthy sound, held]
  exact RequestTrace.sorted_of_ordered ordered

namespace BroadcastOutcome

theorem requestId_ofEvents (id : RequestId) (events : List BroadcastEvent) :
    (ofEvents id events).requestId = id := by
  have kept (o : BroadcastOutcome) : (events.foldl addEvent o).requestId = o.requestId := by
    induction events generalizing o with
    | nil => rfl
    | cons e rest ih =>
      rw [List.foldl_cons, ih]
      cases e <;> rfl
  exact kept (empty id)

/-- The step of a recipient shows where it stands. -/
structure Shows (o : BroadcastOutcome) (q : RecipientId) (s : Step) : Prop where
  participant : s.participant = q.text
  succeeded : s.isOpen = false ∧ s.success = some true ↔ q ∈ o.succeeded.keys
  failed : s.isOpen = false ∧ s.success = some false ↔ q ∈ o.failed.keys
  missing : s.isOpen = true ↔ q ∈ o.missing.keys

/-- The line of a recipient in the route shows where it stands. -/
structure Routes (o : BroadcastOutcome) (q : RecipientId) (e : RouteEntry) : Prop where
  participant : e.participant = q.text
  closed : e.status ≠ .open
  succeeded : e.status = .succeeded ↔ q ∈ o.succeeded.keys
  failed : e.status = .failed ↔ q ∈ o.failed.keys
  abandoned : e.status = .abandoned ↔ q ∈ o.missing.keys

/-- A trace that says what an outcome says. -/
structure Mirrors (o : BroadcastOutcome) (label : String) (rs : List RecipientId)
    (t : RequestTrace) : Prop where
  requestId : t.requestId = o.requestId
  /-- The coordinator's step is first, and then there is one for each recipient. -/
  steps : ∃ s steps, t.steps = s :: steps ∧ s.participant = label ∧ s.isOpen = false ∧
    s.success = some o.isComplete ∧ List.Forall₂ o.Shows (distinct rs) steps
  route : ∃ e es, t.route = e :: es ∧ e.participant = label ∧
    e.status = (if o.isComplete then .succeeded else .failed) ∧
    List.Forall₂ o.Routes (distinct rs) es

variable {o : BroadcastOutcome} {q : RecipientId} {s : Step} {now : Timestamp}

theorem shows_of_follows {due : Option Bool} (follows : Follows False o q due s)
    (proper : s.Proper now) : o.Shows q s := by
  have success : s.success = due := follows.tells.kept id
  have isOpen : s.isOpen = due.isNone := success ▸ proper.isOpen
  refine ⟨follows.participant, ?_, ?_, ?_⟩
  · rw [← follows.succeeded, isOpen, success]
    cases due <;> simp
  · rw [← follows.failed, isOpen, success]
    cases due <;> simp
  · rw [← follows.missing, isOpen, Option.isNone_iff_eq_none]

/-- The line of a step in the route of a request that is over. -/
theorem routes_of_follows {due : Option Bool} (follows : Follows False o q due s) (ms : Option UInt64) :
    o.Routes q ⟨s.participant, if true && s.status == .open then .abandoned else s.status, ms⟩ := by
  have success : s.success = due := follows.tells.kept id
  subst success
  refine ⟨follows.participant, ?_, ?_, ?_, ?_⟩
  · rcases told : s.success with _ | _ | _ <;> simp [Step.status, told]
  · rw [← follows.succeeded]
    rcases told : s.success with _ | _ | _ <;> simp [Step.status, told]
  · rw [← follows.failed]
    rcases told : s.success with _ | _ | _ <;> simp [Step.status, told]
  · rw [← follows.missing]
    rcases told : s.success with _ | _ | _ <;> simp [Step.status, told]

/-- Steps that follow the outcome, when the store cannot have failed. -/
theorem mirrors_of_followed {label : String} {rs : List RecipientId} {t : RequestTrace}
    (own : t.requestId = o.requestId) (proper : ∀ s ∈ t.steps, s.Proper now)
    (followed : o.Followed False label (distinct rs) t.steps) : o.Mirrors label rs t := by
  have route : t.route = t.steps.map fun s =>
      { participant := s.participant
        status := if t.isOver && s.status == .open then .abandoned else s.status
        durationMs := s.duration?.map fun d => UInt64.ofNat d.millis } := rfl
  rcases steps : t.steps with _ | ⟨s, rest⟩
  · rw [steps] at followed
    cases followed with
    | nothing lost => exact lost.elim
  · rw [steps] at followed proper route
    cases followed with
    | recorded named tells recipients =>
      have success : s.success = some o.isComplete := tells.kept id
      have closed : s.isOpen = false := by
        rw [(proper s List.mem_cons_self).isOpen, success]
        rfl
      have ended : t.isOver = true := by
        simp [RequestTrace.isOver, steps, closed]
      rw [ended] at route
      have together := forall₂_and_right recipients fun s member =>
        proper s (List.mem_cons_of_mem _ member)
      refine ⟨own, ⟨s, rest, steps, named, closed, success, ?_⟩, ⟨_, _, route, named, ?_, ?_⟩⟩
      · refine together.imp ?_
        intro q s both
        obtain ⟨⟨due, follows⟩, proper⟩ := both
        exact shows_of_follows follows proper
      · cases complete : o.isComplete <;> simp [Step.status, success, complete]
      · rw [List.forall₂_map_right_iff]
        refine together.imp ?_
        intro q s both
        obtain ⟨⟨due, follows⟩, -⟩ := both
        exact routes_of_follows follows _

end BroadcastOutcome

namespace Coordinator

variable {c : Coordinator} {Sound : Journal → Prop} {recipients : List RecipientId}
  {payload : Json} {deadline : Nat}

/-- What is read of a broadcast that is over, if the store does not fail. -/
theorem Concludes.mirrors {o : BroadcastOutcome} {w : World}
    (concludes : c.Concludes Sound recipients o w.journal) (retains : c.recorder.Retains Sound)
    (healthy : ¬ c.recorder.Falters Sound) :
    o.Mirrors c.label recipients (c.trace o.requestId w).1 := by
  obtain ⟨sound, orderly, ordered, followed⟩ := concludes
  rw [eq_false healthy] at followed
  cases held : w.journal.held o.requestId with
  | none =>
    rw [Journal.steps_of_none held] at followed
    cases followed with
    | nothing lost => exact lost.elim
  | some t =>
    have steps := Journal.steps_of_held held
    rw [steps] at ordered followed
    have read : (c.trace o.requestId w).1 = t :=
      Recorder.trace_of_held retains healthy sound held ordered
    rw [read]
    exact BroadcastOutcome.mirrors_of_followed (orderly.named t held) (steps ▸ orderly.proper) followed

end Coordinator

/--
A stream that is polled until it has no event left. Between two polls other things may go on in the
world.
-/
inductive BroadcastStream.Polled (Meanwhile : World → World → Prop) :
    BroadcastStream → World → List BroadcastEvent → World → Prop
  | last {s s' : BroadcastStream} {w w' : World} (ended : s.next w = (none, s', w')) :
    Polled Meanwhile s w [] w'
  | event {s s' : BroadcastStream} {w w' v u : World} {e : BroadcastEvent}
    {es : List BroadcastEvent} (told : s.next w = (some e, s', w')) (meanwhile : Meanwhile w' v)
    (rest : Polled Meanwhile s' v es u) : Polled Meanwhile s w (e :: es) u

namespace BroadcastStream

variable {Meanwhile : World → World → Prop}

/-- Reading a stream to its end at once is one way to poll it. -/
theorem polled_take (still : ∀ w, Meanwhile w w) (count : Nat) (s : BroadcastStream) (w : World)
    (ended : (s.take count w).2.1.stage = .ended) :
    s.Polled Meanwhile w (s.take count w).1 (s.take count w).2.2 := by
  induction count generalizing s w with
  | zero =>
    have nothing : s.next w = (none, s, w) := by
      have stage : s.stage = .ended := ended
      simp only [next, stage]
    exact .last nothing
  | succ count ih =>
    rw [take] at ended ⊢
    rcases told : s.next w with ⟨_ | e, s', w'⟩
    · exact .last told
    · rw [told] at ended
      exact .event told (still w') (ih s' w' ended)

end BroadcastStream

namespace FanOut

variable {c : Coordinator} {Sound : Journal → Prop} {recipients : List RecipientId}
  {f : FanOut} {rs : List Resolution}

/-- There is one summary at most. -/
theorem summary_of_head? {e : BroadcastEvent} (first : f.summary.head? = some e) :
    f.summary = [e] := by
  unfold summary at first ⊢
  split at first
  · cases first
  · rename_i owing
    rw [if_neg owing]
    exact congrArg (fun e => [e]) (Option.some.inj first)

theorem nextEvent_of_report {f' : FanOut} {w w' : World} {r : Resolution}
    (advanced : f.next w = (some r, f', w')) :
    f.nextEvent w = (some (BroadcastEvent.ofResolution r), .running f', w') := by
  simp only [nextEvent, advanced]

theorem nextEvent_of_last {f' : FanOut} {w w' : World} (advanced : f.next w = (none, f', w')) :
    f.nextEvent w = (f'.summary.head?, .ended, (f'.finish w').2) := by
  simp only [nextEvent, advanced, missing_finish, notes_finish, summary]
  cases f'.missing <;> rfl

/-- What is stored once a stream that is under way has been polled to its end. -/
theorem Underway.concludes_of_polled {id : RequestId} {s : BroadcastStream} {w u : World}
    {es : List BroadcastEvent}
    (underway : f.Underway c Sound recipients id rs w.journal)
    (retains : c.recorder.Retains Sound) (running : s = ⟨id, .running f⟩)
    (polled : s.Polled (fun w v => w.journal.Spares Sound id v.journal) w es u) :
    c.Concludes Sound recipients
      (BroadcastOutcome.ofEvents id (rs.map BroadcastEvent.ofResolution ++ es)) u.journal := by
  induction polled generalizing f rs with
  | @last s s' w w' ended =>
    subst running
    simp only [BroadcastStream.next] at ended
    obtain ⟨log, run⟩ := next_run f w
    rcases advanced : f.next w with ⟨_ | r, f', w₁⟩
    · rw [nextEvent_of_last advanced] at ended
      obtain ⟨silent, -, rfl⟩ : f'.summary.head? = none ∧ _ = s' ∧ (f'.finish w₁).2 = w' := by
        simpa using ended
      rw [advanced] at run
      have told := ofEvents_summary id f' rs
      rw [List.head?_eq_none_iff.1 silent] at told
      have later := underway.run retains run
      rw [Option.toList_none, List.append_nil] at later
      rw [told]
      exact later.concludes retains (.refl _ _ _)
    · rw [nextEvent_of_report advanced] at ended
      cases ended
  | @event s s' w w' v u e es told meanwhile rest ih =>
    subst running
    simp only [BroadcastStream.next] at told
    obtain ⟨log, run⟩ := next_run f w
    rcases advanced : f.next w with ⟨_ | r, f', w₁⟩
    · rw [nextEvent_of_last advanced] at told
      obtain ⟨summary, rfl, rfl⟩ : f'.summary.head? = some e ∧
          (⟨id, .ended⟩ : BroadcastStream) = s' ∧ (f'.finish w₁).2 = w' := by simpa using told
      rw [advanced] at run
      have later := underway.run retains run
      rw [Option.toList_none, List.append_nil] at later
      -- the summary is the last event, after which the stream may only be polled in vain
      cases rest with
      | last ended =>
        cases ended
        rw [← summary_of_head? summary, ofEvents_summary]
        exact later.concludes retains meanwhile
      | event more _ _ => cases more
    · rw [nextEvent_of_report advanced] at told
      cases told
      rw [advanced] at run
      have concludes := ih ((underway.run retains run).spared meanwhile) rfl
      rw [Option.toList_some, List.map_append, List.append_assoc] at concludes
      exact concludes

end FanOut

namespace BroadcastStream

/-- The first poll sets the stream out and then looks for a report. -/
theorem next_idle (id : RequestId) (c : Coordinator) (rs : List RecipientId) (request : Request)
    (deadline : Nat) (w : World) :
    next ⟨id, .idle c rs request deadline⟩ w =
      next ⟨id, .running (FanOut.start c rs request deadline w).1⟩
        (FanOut.start c rs request deadline w).2 := rfl

variable {Meanwhile : World → World → Prop}

theorem Polled.of_next_eq {s t : BroadcastStream} {w v u : World} {es : List BroadcastEvent}
    (polled : s.Polled Meanwhile w es u) (same : s.next w = t.next v) : t.Polled Meanwhile v es u := by
  cases polled with
  | last ended => exact .last (same.symm.trans ended)
  | event told meanwhile rest => exact .event (same.symm.trans told) meanwhile rest

/-- A stream that is read to its end at once has been polled to its end. -/
theorem polled_toList {c : Coordinator} {recipients : List RecipientId} {payload : Json}
    {deadline : Nat} {w : World} {s : BroadcastStream}
    (made : (c.stream recipients payload deadline w).1 = .ok s) (still : ∀ w, Meanwhile w w)
    (u : World) : s.Polled Meanwhile u (s.toList u).1 (s.toList u).2.2 := by
  cases refused : broadcastRefusal? recipients payload deadline with
  | some refusal =>
    simp only [Coordinator.stream, refused] at made
    cases made
  | none =>
    simp only [Coordinator.stream, refused] at made
    cases made
    rcases started : FanOut.start c (distinct recipients) (w.newRequest payload).1 deadline u with
      ⟨f, u'⟩
    rcases gathered : f.gather (f.slots.length + 1) u' with ⟨reports, f', u''⟩
    refine polled_take still _ _ _ ?_
    exact congrArg (fun a => a.2.1.stage) (toList_idle started gathered)

end BroadcastStream

namespace Coordinator

variable {c : Coordinator} {Sound : Journal → Prop}

/--
Broadcasts over a store that neither fails nor loses anything, under a clock that never goes back.
The trace of a broadcast, read afterwards, mirrors its outcome; so does the trace of a stream that
has been polled to its end, with whatever other requests were recorded between two polls.
-/
theorem broadcast_mirrored (recipients : List RecipientId) (payload : Json) (deadline : Nat)
    (retains : c.recorder.Retains Sound) (healthy : ¬ c.recorder.Falters Sound) :
    (∀ w : World, Sound w.journal → w.clock.Forward →
      w.journal.held (RequestId.generated w.requestCount) = none →
      w.journal.stepCount + ((distinct recipients).length + 1) ≤ twoTo 128 →
      broadcastRefusal? recipients payload deadline = none →
      ∃ o w', c.broadcast recipients payload deadline w = (.ok o, w') ∧
        o.Mirrors c.label recipients (c.trace o.requestId w').1) ∧
    ∀ (w : World) (s : BroadcastStream), (c.stream recipients payload deadline w).1 = .ok s →
      ∀ (u u' : World) (events : List BroadcastEvent), Sound u.journal → u.clock.Forward →
      u.journal.held s.requestId = none →
      u.journal.stepCount + ((distinct recipients).length + 1) ≤ twoTo 128 →
      s.Polled (fun w v => w.journal.Spares Sound s.requestId v.journal) u events u' →
      (BroadcastOutcome.ofEvents s.requestId events).Mirrors c.label recipients
        (c.trace s.requestId u').1 := by
  refine ⟨?_, ?_⟩
  · intro w sound forward fresh few accepted
    obtain ⟨o, w', done, concludes⟩ := broadcast_concludes retains accepted sound forward fresh few
    exact ⟨o, w', done, concludes.mirrors retains healthy⟩
  · intro w s made u u' events sound forward fresh few polled
    cases refused : broadcastRefusal? recipients payload deadline with
    | some refusal =>
      simp only [stream, refused] at made
      cases made
    | none =>
      simp only [stream, refused] at made
      cases made
      have outset := FanOut.underway_start (w := u) retains (w.newRequest payload).1
        (RequestId.isBlank_generated w.requestCount) deadline sound forward fresh few
      have concludes := outset.concludes_of_polled retains rfl
        (polled.of_next_eq (BroadcastStream.next_idle _ _ _ _ _ _))
      rw [List.map_nil, List.nil_append] at concludes
      have mirrors := concludes.mirrors retains healthy
      rw [BroadcastOutcome.requestId_ofEvents] at mirrors
      exact mirrors

/-- Four names, three recipients: one answers, one is busy and one is never heard of; on both
stores. -/
theorem broadcast_mirrored_rehearsal :
    (∃ o w', rehearsal.broadcast [⟨"a"⟩, ⟨"b"⟩, ⟨"a"⟩, ⟨"c"⟩] (.string "hi") 50
        (World.rehearsal [.stall 3]) = (.ok o, w') ∧
      o.Mirrors "desk" [⟨"a"⟩, ⟨"b"⟩, ⟨"a"⟩, ⟨"c"⟩] (rehearsal.trace o.requestId w').1) ∧
    (∃ o w', rehearsal.broadcast [⟨"a"⟩, ⟨"b"⟩, ⟨"a"⟩, ⟨"c"⟩] (.string "hi") 50
        (World.durableRehearsal [.stall 3]) = (.ok o, w') ∧
      o.Mirrors "desk" [⟨"a"⟩, ⟨"b"⟩, ⟨"a"⟩, ⟨"c"⟩] (rehearsal.trace o.requestId w').1) ∧
    ∃ s, (rehearsal.stream [⟨"a"⟩, ⟨"b"⟩, ⟨"a"⟩, ⟨"c"⟩] (.string "hi") 50
        (World.rehearsal [])).1 = .ok s ∧
      (BroadcastOutcome.ofEvents s.requestId (s.toList (World.rehearsal [])).1).Mirrors "desk"
        [⟨"a"⟩, ⟨"b"⟩, ⟨"a"⟩, ⟨"c"⟩]
        (rehearsal.trace s.requestId (s.toList (World.rehearsal [])).2.2).1 := by
  obtain ⟨broadcast, stream⟩ := broadcast_mirrored (c := rehearsal)
    [⟨"a"⟩, ⟨"b"⟩, ⟨"a"⟩, ⟨"c"⟩] (.string "hi") 50 (Recorder.retains_healthy _)
    (Recorder.not_falters_healthy _)
  refine ⟨?_, ?_, ?_⟩
  · exact broadcast _ (World.healthy_rehearsal (by decide)) (World.forward_rehearsal _)
      (World.held_rehearsal _ _) (by decide) (by decide)
  · exact broadcast _ (World.healthy_durableRehearsal (by decide)) (World.forward_rehearsal [])
      (World.held_durableRehearsal _ _) (by decide) (by decide)
  · obtain ⟨s, made⟩ : ∃ s, (rehearsal.stream [⟨"a"⟩, ⟨"b"⟩, ⟨"a"⟩, ⟨"c"⟩] (.string "hi") 50
        (World.rehearsal [])).1 = .ok s := ⟨_, rfl⟩
    exact ⟨s, made, stream (World.rehearsal []) s made (World.rehearsal []) _ _
      (World.healthy_rehearsal (by decide)) (World.forward_rehearsal _) (World.held_rehearsal _ _)
      (by decide) (BroadcastStream.polled_toList made (fun w => .refl _ _ w.journal) _)⟩

end Coordinator

end RollCall
