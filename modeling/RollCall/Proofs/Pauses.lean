import RollCall.Proofs.LateRelays
import RollCall.Proofs.Lateness
import RollCall.Proofs.Mirror

set_option autoImplicit false

/-!
A consumer that pauses between the events of a stream. The channel is read only when an event is
asked for, and the deadline is looked at first. A reply that came in time is delivered if everything
up to it was asked for before the deadline; otherwise its sender is said to be missing.
-/
namespace RollCall

/-- What comes later does not change whose first replies there were, nor their order. -/
theorem firstReplies_of_isPrefix {pending : List RecipientId} {ms ns : List Message}
    (first : ms <+: ns) : firstReplies pending ms <+: firstReplies pending ns := by
  induction ms generalizing pending ns with
  | nil => exact List.nil_prefix
  | cons m ms ih =>
    obtain ⟨later, rfl⟩ := first
    have rest : ms <+: ms ++ later := List.prefix_append ms later
    rw [List.cons_append, firstReplies, firstReplies]
    by_cases owed : m.sender ∈ pending
    · rw [if_pos owed, if_pos owed]
      exact (List.prefix_cons_inj m).2 (ih rest)
    · rw [if_neg owed, if_neg owed]
      exact ih rest

namespace FanOut

/-- Among as many messages as the patience allows the first replies are reported, in order. -/
theorem Attends.gathered_in_order {registry : Registry} {f f' : FanOut} {w w' : World} {h : Hub}
    {rs : List Resolution} (attends : f.Attends registry w h) {count : Nat}
    (enough : f.missing.length < count) (gathered : f.gather count w = (rs, f', w')) {n : Nat}
    (few : (h.arrivals registry f.deadline n).length ≤ w.patience) :
    (firstReplies f.missing (h.arrivals registry f.deadline n)).map Resolution.ofMessage <+: rs := by
  obtain ⟨log, whole, ended⟩ := attends.gather_over enough gathered
  obtain ⟨hub, attendsLast, -, ran, exact⟩ := whole.attends attends
  have came : h.arrivals registry f.deadline n <+:
      Reading.messages (Call.readings log) ++ hub.arrivals registry f.deadline n := by
    rw [← exact]
    exact Hub.arrivals_mono _ _ (Nat.le_add_left n ran) h
  rw [whole.replies attends.setup]
  apply List.IsPrefix.map
  rcases ended with (done | late | released) | many
  · have heard : ∀ r ∈ f.missing, ∃ m ∈ Reading.messages (Call.readings log), m.sender = r := by
      intro r owed
      obtain ⟨m, first⟩ := whole.heard attends.setup done owed
      obtain ⟨member, sender⟩ := firstReply?_eq_some first
      exact ⟨m, member, sender⟩
    rw [← firstReplies_append_of_heard heard (hub.arrivals registry f.deadline n)]
    exact firstReplies_of_isPrefix came
  · have nothing := attendsLast.late late n
    rw [whole.sameCall.deadline] at nothing
    rw [nothing, List.append_nil] at came
    exact firstReplies_of_isPrefix came
  · rw [attendsLast.channel] at released
    cases released
  · apply firstReplies_of_isPrefix
    exact List.prefix_of_prefix_length_le came (List.prefix_append _ _) (Nat.le_trans few many)

end FanOut

namespace BroadcastStream

/-- What a consumer gets that asks once for each of its pauses, and pauses after the event. -/
def takePausing : List Nat → BroadcastStream → World → List BroadcastEvent
  | [], _, _ => []
  | ms :: pauses, s, w =>
    match s.next w with
    | (none, _, _) => []
    | (some e, s, w) => e :: takePausing pauses s (w.wait ms)

/-- The instants at which such a consumer asks. -/
def polls : List Nat → BroadcastStream → World → List Nat
  | [], _, _ => []
  | ms :: pauses, s, w =>
    w.now :: match s.next w with
      | (none, _, _) => []
      | (some _, s, w) => polls pauses s (w.wait ms)

theorem takePausing_ended (pauses : List Nat) (id : RequestId) (w : World) :
    takePausing pauses ⟨id, .ended⟩ w = [] := by
  cases pauses with
  | nil => rfl
  | cons ms pauses => rfl

/-- The next event is all that decides what a consumer gets, and what it asks for later. -/
theorem takePausing_of_next_eq {s t : BroadcastStream} {w v : World} (same : s.next w = t.next v)
    (pauses : List Nat) : s.takePausing pauses w = t.takePausing pauses v := by
  cases pauses with
  | nil => rfl
  | cons ms pauses => rw [takePausing, takePausing, same]

theorem polls_of_next_eq {s t : BroadcastStream} {w v : World} (same : s.next w = t.next v)
    (now : w.now = v.now) (pauses : List Nat) : s.polls pauses w = t.polls pauses v := by
  cases pauses with
  | nil => rfl
  | cons ms pauses => rw [polls, polls, same, now]

/-- A report is delivered at its place, if this and all before it were asked for in time. -/
structure Delivers (limit place : Nat) (r : Resolution) (events : List BroadcastEvent)
    (polls : List Nat) : Prop where
  event : events[place]? = some (.ofResolution r)
  inTime : ∀ t ∈ polls.take (place + 1), t < limit

/-- A report is lost, and whom it is of is said to be missing, if something was asked for late. -/
structure Loses (limit place : Nat) (r : Resolution) (events : List BroadcastEvent)
    (polls : List Nat) : Prop where
  silent : ∀ e ∈ events, e.sender? ≠ some r.sender
  missing : ∃ rs notes, .missingSummary rs notes ∈ events ∧ r.sender ∈ rs
  late : ∃ t ∈ polls.take (place + 1), limit ≤ t

variable {limit place : Nat} {r first : Resolution} {events : List BroadcastEvent}
  {polls : List Nat} {t : Nat}

theorem Delivers.cons (delivers : Delivers limit place r events polls) (early : t < limit)
    (e : BroadcastEvent) : Delivers limit (place + 1) r (e :: events) (t :: polls) := by
  refine ⟨by simpa using delivers.event, ?_⟩
  rw [List.take_succ_cons]
  exact List.forall_mem_cons.2 ⟨early, delivers.inTime⟩

theorem Loses.cons (loses : Loses limit place r events polls) (apart : first.sender ≠ r.sender)
    (t : Nat) : Loses limit (place + 1) r (.ofResolution first :: events) (t :: polls) := by
  obtain ⟨silent, ⟨rs, notes, told, member⟩, u, asked, late⟩ := loses
  refine ⟨?_, ⟨rs, notes, List.mem_cons_of_mem _ told, member⟩, u, ?_, late⟩
  · intro e member
    rcases List.mem_cons.1 member with rfl | later
    · rw [BroadcastEvent.sender?_ofResolution]
      simpa using apart
    · exact silent e later
  · rw [List.take_succ_cons]
    exact List.mem_cons_of_mem _ asked

/-- Which of the two it is can be told from the instants of the polls. -/
theorem delivers_iff_of_fate
    (fate : Delivers limit place r events polls ∨ Loses limit place r events polls) :
    (Delivers limit place r events polls ↔ ∀ t ∈ polls.take (place + 1), t < limit) ∧
      (Loses limit place r events polls ↔ ∃ t ∈ polls.take (place + 1), limit ≤ t) := by
  rcases fate with delivers | loses
  · have never : ¬ ∃ t ∈ polls.take (place + 1), limit ≤ t := by
      rintro ⟨t, asked, late⟩
      exact absurd (delivers.inTime t asked) (Nat.not_lt_of_le late)
    exact ⟨iff_of_true delivers delivers.inTime, iff_of_false (fun loses => never loses.late) never⟩
  · have late : ¬ ∀ t ∈ polls.take (place + 1), t < limit := by
      intro inTime
      obtain ⟨t, asked, late⟩ := loses.late
      exact absurd (inTime t asked) (Nat.not_lt_of_le late)
    exact ⟨iff_of_false (fun delivers => late delivers.inTime) late, iff_of_true loses loses.late⟩

end BroadcastStream

/-- Whoever waits falls further behind. -/
theorem World.Lags.waited {c : Coordinator} {w v : World} (lags : Lags c w v) (ms : Nat) :
    Lags c (w.wait ms) v := by
  refine ⟨lags.transport, lags.patience, ?_, lags.prompt⟩
  have now : (w.wait ms).now = w.now + ms := Clock.now_wait w.clock ms
  have behind := lags.now
  omega

namespace FanOut

open BroadcastStream (takePausing polls Delivers Loses)

variable {c : Coordinator} {limit : Nat} {f g : FanOut} {w v : World}

/-- Once the deadline has come the next event is the summary, and there is no other. -/
theorem takePausing_late {ms : Nat} {pauses : List Nat} {id : RequestId} {q : RecipientId}
    (setup : f.setupFailure = none) (late : f.deadline ≤ w.now) (owed : q ∈ f.missing) :
    takePausing (ms :: pauses) ⟨id, .running f⟩ w = [.missingSummary f.missing f.notes] := by
  have summary : f.summary = [.missingSummary f.missing f.notes] :=
    if_neg (List.ne_nil_of_mem owed)
  have last := nextEvent_of_last (next_of_late setup late)
  rw [summary] at last
  simp only [takePausing, BroadcastStream.next, last, List.head?_cons]
  rw [BroadcastStream.takePausing_ended]

/--
A stream whose consumer pauses, beside what the fan-out gathers when nobody pauses. What it gathers
at some place is delivered at that place, or lost.
-/
theorem Abreast.paused (pauses : List Nat)
    (abreast : Abreast c limit (fun ch => ∃ h, ch = .hub h) (World.Lags c) f w g v)
    (setup : f.setupFailure = none) (id : RequestId) {count place : Nat} {r : Resolution}
    (reported : (g.gather count v).1[place]? = some r) (asked : place < pauses.length) :
    Delivers limit place r (takePausing pauses ⟨id, .running f⟩ w)
        (polls pauses ⟨id, .running f⟩ w) ∨
      Loses limit place r (takePausing pauses ⟨id, .running f⟩ w)
        (polls pauses ⟨id, .running f⟩ w) := by
  induction pauses generalizing f w g v count place with
  | nil => cases asked
  | cons ms pauses ih =>
    obtain ⟨log, whole⟩ := gather_run count g v
    obtain ⟨once, pending, -⟩ := whole.missing
    by_cases early : w.now < limit
    · cases count with
      | zero => cases reported
      | succ count =>
        obtain ⟨same, still⟩ := abreast.next (Or.inr early) (World.lockstep_lags c limit)
        obtain ⟨log, run⟩ := next_run f w
        have setupLater := run.sameCall.setupFailure.trans setup
        rw [FanOut.gather] at reported once
        rcases advanced : f.next w with ⟨r', f', w'⟩
        rcases advanced' : g.next v with ⟨r'', g', v'⟩
        rw [advanced, advanced'] at same still
        rw [advanced] at setupLater
        rw [advanced'] at reported once
        obtain rfl : r'' = r' := same
        cases r'' with
        | none => cases reported
        | some first =>
          have event := nextEvent_of_report advanced
          have taken : takePausing (ms :: pauses) ⟨id, .running f⟩ w =
              .ofResolution first :: takePausing pauses ⟨id, .running f'⟩ (w'.wait ms) := by
            simp only [takePausing, BroadcastStream.next, event]
          have times : polls (ms :: pauses) ⟨id, .running f⟩ w =
              w.now :: polls pauses ⟨id, .running f'⟩ (w'.wait ms) := by
            simp only [polls, BroadcastStream.next, event]
          rw [taken, times]
          cases place with
          | zero =>
            left
            obtain rfl : first = r := by simpa using reported
            refine ⟨rfl, ?_⟩
            simpa using early
          | succ place =>
            have later : (g'.gather count v').1[place]? = some r := by simpa using reported
            have apart : first.sender ≠ r.sender := by
              rw [List.map_cons, List.nodup_cons] at once
              intro equal
              apply once.1
              rw [equal]
              exact List.mem_map_of_mem (List.mem_of_getElem? later)
            have behind : Abreast c limit (fun ch => ∃ h, ch = .hub h) (World.Lags c) f'
                (w'.wait ms) g' v' := { still with beside := still.beside.waited ms }
            rcases ih behind setupLater later (Nat.lt_of_succ_lt_succ asked) with delivers | loses
            · exact Or.inl (delivers.cons early _)
            · exact Or.inr (loses.cons apart _)
    · have late := Nat.le_of_not_lt early
      have owed : r.sender ∈ f.missing := by
        rw [← abreast.alike.missing]
        exact pending r (List.mem_of_getElem? reported)
      right
      rw [takePausing_late setup (abreast.deadline ▸ late) owed]
      refine ⟨?_, ⟨_, _, List.mem_singleton_self _, owed⟩, w.now, ?_, late⟩
      · intro e member
        rw [List.mem_singleton.1 member]
        intro told
        cases told
      · rw [polls, List.take_succ_cons]
        exact List.mem_cons_self

end FanOut

namespace FanOut

open BroadcastStream (takePausing polls Delivers Loses)

/-- Who does not pause asks for everything in time that there is to get. -/
theorem polls_unpaused {pauses : List Nat} (still : ∀ ms ∈ pauses, ms = 0) {f : FanOut} {w : World}
    (setup : f.setupFailure = none) (id : RequestId) {count place : Nat} {r : Resolution}
    (reported : (f.gather count w).1[place]? = some r) :
    ∀ t ∈ (polls pauses ⟨id, .running f⟩ w).take (place + 1), t < f.deadline := by
  induction pauses generalizing f w count place with
  | nil => simp [polls]
  | cons ms pauses ih =>
    obtain ⟨log, run⟩ := next_run f w
    have setupLater := run.sameCall.setupFailure.trans setup
    have deadline := run.sameCall.deadline
    cases count with
    | zero => cases reported
    | succ count =>
      have early : w.now < f.deadline := by
        by_contra late
        rw [gather, next_of_late setup (Nat.le_of_not_lt late)] at reported
        cases reported
      rw [gather] at reported
      rcases advanced : f.next w with ⟨_ | first, f', w'⟩
      · rw [advanced] at reported
        cases reported
      · rw [advanced] at reported setupLater deadline
        have none : w'.wait ms = w' := by
          rw [still ms List.mem_cons_self, World.wait, Clock.wait_zero]
          rfl
        have times : polls (ms :: pauses) ⟨id, .running f⟩ w =
            w.now :: polls pauses ⟨id, .running f'⟩ w' := by
          simp only [polls, BroadcastStream.next, nextEvent_of_report advanced, none]
        rw [times, List.take_succ_cons]
        refine List.forall_mem_cons.2 ⟨early, ?_⟩
        cases place with
        | zero => simp
        | succ place =>
          have later : (f'.gather count w').1[place]? = some r := by simpa using reported
          rw [← deadline]
          exact ih (fun ms member => still ms (List.mem_cons_of_mem _ member)) setupLater later

/-- So a first reply on a network is delivered or lost, and delivered to one who does not pause. -/
theorem Attends.paused {registry : Registry} {h : Hub} {f : FanOut} {w : World}
    (attends : f.Attends registry w h) (count : Nat)
    (few : (h.arrivals registry f.deadline count).length ≤ w.patience) (pauses : List Nat)
    (id : RequestId) {place : Nat} (asked : place < pauses.length) {m : Message}
    (replied : (firstReplies f.missing (h.arrivals registry f.deadline count))[place]? = some m) :
    (Delivers f.deadline place (.ofMessage m) (takePausing pauses ⟨id, .running f⟩ w)
          (polls pauses ⟨id, .running f⟩ w) ∨
        Loses f.deadline place (.ofMessage m) (takePausing pauses ⟨id, .running f⟩ w)
          (polls pauses ⟨id, .running f⟩ w)) ∧
      ((∀ ms ∈ pauses, ms = 0) →
        ∀ t ∈ (polls pauses ⟨id, .running f⟩ w).take (place + 1), t < f.deadline) := by
  rcases gathered : f.gather (f.missing.length + 1) w with ⟨rs, f', w'⟩
  have order := attends.gathered_in_order (Nat.lt_succ_self _) gathered few
  have placed : ((firstReplies f.missing (h.arrivals registry f.deadline count)).map
      Resolution.ofMessage)[place]? = some (.ofMessage m) := by
    rw [List.getElem?_map]
    exact congrArg (Option.map Resolution.ofMessage) replied
  obtain ⟨short, equal⟩ := List.getElem?_eq_some_iff.1 placed
  have reported : (f.gather (f.missing.length + 1) w).1[place]? = some (.ofMessage m) := by
    rw [gathered, ← equal]
    exact List.prefix_iff_getElem?.1 order place short
  have abreast : Abreast f.coordinator f.deadline (fun ch => ∃ h, ch = .hub h)
      (World.Lags f.coordinator) f w f w := by
    refine ⟨⟨rfl, rfl, rfl, rfl, rfl, rfl, rfl⟩, ⟨rfl, rfl, Nat.le_refl _, attends.prompt⟩, ?_,
      rfl, rfl⟩
    intro ch held
    exact ⟨_, Option.some.inj (held.symm.trans attends.channel)⟩
  exact ⟨abreast.paused pauses attends.setup id reported asked,
    fun still => polls_unpaused still attends.setup id reported⟩

end FanOut

namespace Coordinator

variable (c : Coordinator) (recipients : List RecipientId) (payload : Json) (deadline : Nat)

/--
What has come on the channel of a stream that is first asked for an event in this world, when so
many tasks of a network have run, of those that are due before the deadline.
-/
def awaited (n : Network) (count : Nat) (id : RequestId) (w : World) : List Message :=
  let hub := Hub.opened (c.topic "broadcast" id) (distinct recipients)
  (hub.publish n.registry w.clock.moment ⟨id, payload⟩).arrivals n.registry (w.now + deadline) count

variable {c recipients payload deadline}

open BroadcastStream (Delivers Loses)

/--
A stream over a network and a store that takes no time, with a consumer that pauses between its
events. Each first reply that comes before the deadline is delivered, in its place among the first
replies, exactly if the consumer asks for it and for all events before it before the deadline, as it
does if it never pauses. Otherwise there is no event of its sender, who is said to be missing.
-/
theorem paused_stream_delivers_iff {w u : World} {s : BroadcastStream}
    (made : (c.stream recipients payload deadline w).1 = .ok s) {n : Network}
    (network : u.transport = .network n) (online : n.offline = false)
    (prompt : c.recorder.IsPrompt u.journal) {count : Nat}
    (few : (c.awaited recipients payload deadline n count s.requestId u).length ≤ u.patience)
    (pauses : List Nat) {place : Nat} (asked : place < pauses.length) {m : Message}
    (replied : (firstReplies (distinct recipients)
      (c.awaited recipients payload deadline n count s.requestId u))[place]? = some m) :
    (Delivers (u.now + deadline) place (.ofMessage m) (s.takePausing pauses u) (s.polls pauses u) ↔
        ∀ t ∈ (s.polls pauses u).take (place + 1), t < u.now + deadline) ∧
      (Loses (u.now + deadline) place (.ofMessage m) (s.takePausing pauses u) (s.polls pauses u) ↔
        ∃ t ∈ (s.polls pauses u).take (place + 1), u.now + deadline ≤ t) ∧
      ((∀ ms ∈ pauses, ms = 0) →
        Delivers (u.now + deadline) place (.ofMessage m) (s.takePausing pauses u)
          (s.polls pauses u)) := by
  cases refused : broadcastRefusal? recipients payload deadline with
  | some refusal =>
    simp only [stream, refused] at made
    cases made
  | none =>
    simp only [stream, refused] at made
    cases made
    have positive := deadline_pos recipients payload deadline refused
    obtain ⟨attends, patience⟩ := FanOut.attends_start c (distinct recipients)
      (w.newRequest payload).1 deadline network online prompt positive
    obtain ⟨-, opened⟩ := FanOut.timely_start c (distinct recipients) (w.newRequest payload).1
      deadline u prompt
    rw [network] at opened
    obtain ⟨now, -⟩ := opened.ended 0 rfl
    have missing := FanOut.missing_start c (distinct recipients) (w.newRequest payload).1 deadline u
    have due : (FanOut.start c (distinct recipients) (w.newRequest payload).1 deadline u).1.deadline =
        u.now + deadline := rfl
    have first := BroadcastStream.next_idle (w.newRequest payload).1.requestId c (distinct recipients)
      (w.newRequest payload).1 deadline u
    rw [Nat.add_zero] at now
    rw [BroadcastStream.takePausing_of_next_eq first,
      BroadcastStream.polls_of_next_eq first now.symm]
    generalize FanOut.start c (distinct recipients) (w.newRequest payload).1 deadline u = a
      at attends patience missing due
    rw [← due]
    obtain ⟨fate, unpaused⟩ := attends.paused count (by rw [due, patience]; exact few) pauses
      (w.newRequest payload).1.requestId asked (by rw [due, missing]; exact replied)
    obtain ⟨delivers, loses⟩ := BroadcastStream.delivers_iff_of_fate fate
    exact ⟨delivers, loses, fun still => delivers.2 (unpaused still)⟩

/-- A pause of a millisecond between two answers leaves time for the second. -/
theorem paused_stream_delivers_iff_rehearsal :
    ∃ s, (rehearsal.stream [⟨"a"⟩, ⟨"b"⟩] (.string "hi") 5 (World.duet [])).1 = .ok s ∧
      ∃ m, m.body.classify = .ok "end" ∧
        Delivers 5 1 (.ofMessage m) (s.takePausing [1, 0] (World.duet []))
          (s.polls [1, 0] (World.duet [])) := by
  obtain ⟨s, made, awaited⟩ : ∃ s,
      (rehearsal.stream [⟨"a"⟩, ⟨"b"⟩] (.string "hi") 5 (World.duet [])).1 = .ok s ∧
        s.requestId = RequestId.generated 0 := ⟨_, rfl, rfl⟩
  have prompt : rehearsal.recorder.IsPrompt (World.duet []).journal := by
    intro d member
    cases member
  have few : (rehearsal.awaited [⟨"a"⟩, ⟨"b"⟩] (.string "hi") 5 Network.duet 4
      (RequestId.generated 0) (World.duet [])).length ≤ 2 := by
    decide +kernel
  have came : ((firstReplies (distinct [⟨"a"⟩, ⟨"b"⟩])
      (rehearsal.awaited [⟨"a"⟩, ⟨"b"⟩] (.string "hi") 5 Network.duet 4 (RequestId.generated 0)
        (World.duet [])))[1]?).map (fun m => m.body.classify) = some (.ok "end") := by
    decide +kernel
  have inTime : ((rehearsal.stream [⟨"a"⟩, ⟨"b"⟩] (.string "hi") 5 (World.duet [])).1.toOption.map
      fun s => (s.polls [1, 0] (World.duet [])).all (· < 5)) = some true := by
    decide +kernel
  rw [made] at inTime
  have asked := List.all_eq_true.1 (Option.some.inj inTime)
  rw [← awaited] at few came
  obtain ⟨m, replied, answer⟩ := Option.map_eq_some_iff.1 came
  obtain ⟨delivers, -, -⟩ := paused_stream_delivers_iff (u := World.duet []) made rfl rfl prompt few
    [1, 0] Nat.one_lt_two replied
  refine ⟨s, made, m, answer, delivers.2 ?_⟩
  intro t poll
  exact of_decide_eq_true (asked t (List.mem_of_mem_take poll))

/-- A pause of ten is too long, though the second answer comes after two milliseconds. -/
theorem paused_stream_loses_an_answer :
    (firstReply? (rehearsal.awaited [⟨"a"⟩, ⟨"b"⟩] (.string "hi") 5 Network.duet 4
        (RequestId.generated 0) (World.duet [])) ⟨"b"⟩).map (fun m => m.body.classify) =
          some (.ok "end") ∧
      (rehearsal.stream [⟨"a"⟩, ⟨"b"⟩] (.string "hi") 5 (World.duet [])).1.toOption.map
          (fun s => s.takePausing [0, 0] (World.duet [])) =
        some [.delivered ⟨"a"⟩ "part", .delivered ⟨"b"⟩ "end"] ∧
      (rehearsal.stream [⟨"a"⟩, ⟨"b"⟩] (.string "hi") 5 (World.duet [])).1.toOption.map
          (fun s => s.takePausing [10, 0] (World.duet [])) =
        some [.delivered ⟨"a"⟩ "part", .missingSummary [⟨"b"⟩] []] := by
  decide +kernel

end Coordinator

end RollCall
