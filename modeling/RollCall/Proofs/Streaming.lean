import RollCall.Broadcast.Stream
import RollCall.Proofs.Partition
import RollCall.Proofs.Replies

set_option autoImplicit false

/-!
A stream against the broadcast that waits. Its events say all that the outcome says, each as it
happens, and only the summary, which is last, is there or not.
-/
namespace RollCall

namespace BroadcastOutcome

/-- An outcome with what one more event says. -/
def addEvent (o : BroadcastOutcome) : BroadcastEvent → BroadcastOutcome
  | .delivered r text => { o with succeeded := o.succeeded.insert r text }
  | .failed r e => { o with failed := o.failed.insert r e }
  | .missingSummary rs _ => { o with missing := RecipientSet.ofRecipients rs }

def ofEvents (id : RequestId) (events : List BroadcastEvent) : BroadcastOutcome :=
  events.foldl addEvent (empty id)

theorem addEvent_ofResolution (o : BroadcastOutcome) (r : Resolution) :
    o.addEvent (BroadcastEvent.ofResolution r) = o.add r := by
  obtain ⟨sender, result⟩ := r
  cases result <;> rfl

theorem foldl_addEvent (o : BroadcastOutcome) (reports : List Resolution) :
    (reports.map BroadcastEvent.ofResolution).foldl addEvent o = reports.foldl add o := by
  rw [List.foldl_map]
  simp only [addEvent_ofResolution]

/-- Reports leave the missing alone. -/
theorem missing_foldl_add (o : BroadcastOutcome) (reports : List Resolution) :
    (reports.foldl add o).missing = o.missing := by
  induction reports generalizing o with
  | nil => rfl
  | cons r rest ih =>
    obtain ⟨sender, result⟩ := r
    rw [List.foldl_cons, ih]
    cases result <;> rfl

end BroadcastOutcome

namespace FanOut

def summary (f : FanOut) : List BroadcastEvent :=
  if f.missing = [] then [] else [.missingSummary f.missing f.notes]

variable {f f' : FanOut} {w w' : World} {rs : List Resolution}

theorem notes_finish (f : FanOut) (w : World) : (f.finish w).1.notes = f.notes := by
  unfold finish releaseChannel
  cases f.channel <;> rfl

/-- The reports and the summary tell of the outcome. -/
theorem ofEvents_summary (id : RequestId) (f : FanOut) (rs : List Resolution) :
    BroadcastOutcome.ofEvents id (rs.map BroadcastEvent.ofResolution ++ f.summary) =
      .ofReports id rs f.missing := by
  unfold BroadcastOutcome.ofEvents BroadcastOutcome.ofReports
  rw [List.foldl_append, BroadcastOutcome.foldl_addEvent]
  unfold summary
  split
  · rename_i nobody
    rw [nobody, List.foldl_nil]
    have kept := BroadcastOutcome.missing_foldl_add (BroadcastOutcome.empty id) rs
    cases whole : rs.foldl BroadcastOutcome.add (BroadcastOutcome.empty id)
    rw [whole] at kept
    simp only at kept
    rw [kept]
    rfl
  · rfl

theorem take_ended (id : RequestId) (count : Nat) (w : World) :
    BroadcastStream.take count ⟨id, .ended⟩ w = ([], ⟨id, .ended⟩, w) := by
  cases count <;> rfl

/-- A stream that is under way tells what the fan-out would gather, and then the summary. -/
theorem take_running (id : RequestId) (count : Nat) (enough : f.missing.length < count)
    (gathered : f.gather count w = (rs, f', w')) :
    BroadcastStream.take (count + 1) ⟨id, .running f⟩ w =
      (rs.map BroadcastEvent.ofResolution ++ f'.summary, ⟨id, .ended⟩, (f'.finish w').2) := by
  induction count generalizing f w rs with
  | zero => omega
  | succ count ih =>
    rw [gather] at gathered
    rw [BroadcastStream.take]
    simp only [BroadcastStream.next, nextEvent]
    rcases advanced : f.next w with ⟨r, g, v⟩
    rw [advanced] at gathered
    cases r with
    | none =>
      cases gathered
      simp only [missing_finish, notes_finish]
      cases owed : f'.missing with
      | nil => simp [summary, owed]
      | cons r rest => simp [summary, owed, take_ended]
    | some r =>
      have fewer := next_fewer advanced
      rcases rest : g.gather count v with ⟨later, g', v'⟩
      simp only [rest] at gathered
      cases gathered
      have told := ih (by omega) rest
      simp only [told]
      rfl

end FanOut

namespace BroadcastEvent

theorem sender?_ofResolution (r : Resolution) : (ofResolution r).sender? = some r.sender := by
  obtain ⟨sender, result⟩ := r
  cases result <;> rfl

def reports (events : List BroadcastEvent) : List BroadcastEvent :=
  events.filter fun e => e.sender?.isSome

def senders (events : List BroadcastEvent) : List RecipientId := events.filterMap sender?

/--
What the events of a whole stream are, given its recipients, what came of setting out and what was
read after that.
-/
structure Tells (events : List BroadcastEvent) (rs : List RecipientId)
    (setup : Except String Channel) (readings : List Reading) : Prop where
  once : (senders events).Nodup
  /-- Without a channel everybody fails, in the order of the list. -/
  refused : ∀ failure, setup = .error failure →
    events = (distinct rs).map fun r => .failed r ⟨.transportFailure, failure⟩
  /-- On a channel the events follow the first replies in the order in which they were read. -/
  arrival : ∀ c, setup = .ok c → reports events =
    (firstReplies (distinct rs) (Reading.messages readings)).map fun m =>
      ofResolution (Resolution.ofMessage m)
  summary_iff : (∃ e ∈ events, e.sender? = none) ↔ ∃ r ∈ rs, r ∉ senders events
  /-- A summary is the last event and the only one; its note is the error that ended reading. -/
  summary_last : ∀ e ∈ events, e.sender? = none → ∃ before, events = before ++ [e] ∧
    (∀ b ∈ before, b.sender? ≠ none) ∧
    e = .missingSummary ((distinct rs).filter (· ∉ senders events))
      ((readings.findSome? Reading.fault?).map FanOut.brokenNote).toList

theorem mem_summary {f : FanOut} {e : BroadcastEvent} (member : e ∈ f.summary) :
    f.missing ≠ [] ∧ f.summary = [e] ∧ e = .missingSummary f.missing f.notes := by
  unfold FanOut.summary at *
  split at member
  · cases member
  · rename_i owed
    rw [List.mem_singleton] at member
    rw [if_neg owed, member]
    exact ⟨owed, rfl, rfl⟩

theorem senders_summary (f : FanOut) (reports : List Resolution) :
    senders (reports.map ofResolution ++ f.summary) = reports.map Resolution.sender := by
  have nobody : senders f.summary = [] := by
    unfold senders FanOut.summary
    split <;> rfl
  unfold senders at *
  rw [List.filterMap_append, nobody, List.append_nil, List.filterMap_map]
  have each : sender? ∘ ofResolution = fun r => some r.sender := funext sender?_ofResolution
  rw [each, ← List.filterMap_eq_map]
  rfl

theorem reports_summary (f : FanOut) (resolutions : List Resolution) :
    reports (resolutions.map ofResolution ++ f.summary) = resolutions.map ofResolution := by
  have none : reports f.summary = [] := by
    unfold reports FanOut.summary
    split <;> rfl
  have all : reports (resolutions.map ofResolution) = resolutions.map ofResolution := by
    rw [reports, List.filter_eq_self]
    intro e member
    obtain ⟨r, -, rfl⟩ := List.mem_map.1 member
    rw [sender?_ofResolution]
    rfl
  unfold reports at *
  rw [List.filter_append, none, all, List.append_nil]

/-- What follows from the summary alone, whatever the reports are. -/
theorem summary_of_left {f : FanOut} {resolutions : List Resolution} {rs : List RecipientId}
    (left : f.missing = (distinct rs).filter (· ∉ resolutions.map Resolution.sender)) :
    ((∃ e ∈ resolutions.map ofResolution ++ f.summary, e.sender? = none) ↔
        ∃ r ∈ rs, r ∉ resolutions.map Resolution.sender) ∧
      ∀ e ∈ resolutions.map ofResolution ++ f.summary, e.sender? = none →
        ∃ before, resolutions.map ofResolution ++ f.summary = before ++ [e] ∧
          (∀ b ∈ before, b.sender? ≠ none) ∧ e = .missingSummary f.missing f.notes := by
  have about : ∀ b ∈ resolutions.map ofResolution, b.sender? ≠ none := by
    intro b member
    obtain ⟨r, -, rfl⟩ := List.mem_map.1 member
    simp [sender?_ofResolution]
  have last : ∀ e ∈ resolutions.map ofResolution ++ f.summary, e.sender? = none →
      e ∈ f.summary := by
    intro e member nobody
    rcases List.mem_append.1 member with report | summary
    · exact absurd nobody (about e report)
    · exact summary
  refine ⟨?_, ?_⟩
  · constructor
    · intro told
      obtain ⟨e, member, nobody⟩ := told
      obtain ⟨owed, -, -⟩ := mem_summary (last e member nobody)
      obtain ⟨r, silent⟩ := List.exists_mem_of_ne_nil _ owed
      rw [left, List.mem_filter, mem_distinct, decide_eq_true_iff] at silent
      exact ⟨r, silent⟩
    · intro unheard
      obtain ⟨r, listed, silent⟩ := unheard
      have owed : r ∈ f.missing := by
        rw [left, List.mem_filter, mem_distinct, decide_eq_true_iff]
        exact ⟨listed, silent⟩
      refine ⟨.missingSummary f.missing f.notes, List.mem_append_right _ ?_, rfl⟩
      rw [FanOut.summary, if_neg (List.ne_nil_of_mem owed)]
      exact List.mem_singleton_self _
  · intro e member nobody
    obtain ⟨-, only, same⟩ := mem_summary (last e member nobody)
    exact ⟨_, by rw [only], about, same⟩

theorem tells_of_refused {f : FanOut} (failure : String) (rs : List RecipientId)
    (done : f.missing = []) (readings : List Reading) :
    Tells (((distinct rs).map (Resolution.refused failure)).map ofResolution ++ f.summary) rs
      (.error failure) readings := by
  have all : ((distinct rs).map (Resolution.refused failure)).map Resolution.sender =
      distinct rs := by
    rw [List.map_map]
    exact List.map_id _
  have none : f.summary = [] := if_pos done
  have left : f.missing =
      (distinct rs).filter
        (· ∉ ((distinct rs).map (Resolution.refused failure)).map Resolution.sender) := by
    rw [all, done, eq_comm, List.filter_eq_nil_iff]
    simp
  obtain ⟨summary, -⟩ := summary_of_left left
  refine ⟨?_, ?_, ?_, ?_, ?_⟩
  · rw [senders_summary, all]
    exact distinct_nodup rs
  · intro why same
    cases same
    rw [none, List.append_nil, List.map_map]
    rfl
  · intro what same
    cases same
  · rw [senders_summary]
    exact summary
  · intro e member nobody
    obtain ⟨r, listed, silent⟩ := summary.1 ⟨e, member, nobody⟩
    rw [all, mem_distinct] at silent
    exact absurd listed silent

theorem tells_of_run {f f' : FanOut} {w w' : World} {log : List Call}
    {resolutions : List Resolution} {rs : List RecipientId}
    (run : FanOut.Run f w log resolutions f' w') (setup : f.setupFailure = none)
    (clean : f.notes = []) (all : f.missing = distinct rs) (c : Channel) :
    Tells (resolutions.map ofResolution ++ f'.summary) rs (.ok c) (Call.readings log) := by
  obtain ⟨once, -, left⟩ := run.missing
  have replies := run.replies setup
  have notes := run.notes setup
  rw [all] at left replies
  rw [clean, List.nil_append] at notes
  obtain ⟨summary, last⟩ := summary_of_left left
  refine ⟨?_, ?_, ?_, ?_, ?_⟩
  · rw [senders_summary]
    exact once
  · intro what same
    cases same
  · intro _ _
    rw [reports_summary, replies, List.map_map]
    rfl
  · rw [senders_summary]
    exact summary
  · rw [senders_summary, ← left, ← notes]
    exact last

end BroadcastEvent

/-- The first event of a stream sets it out; from there on it is under way. -/
theorem BroadcastStream.take_idle (count : Nat) {id : RequestId} {c : Coordinator}
    {rs : List RecipientId} {request : Request} {deadline : Nat} {w w' : World} {f : FanOut}
    (started : FanOut.start c rs request deadline w = (f, w')) :
    take (count + 1) ⟨id, .idle c rs request deadline⟩ w = take (count + 1) ⟨id, .running f⟩ w' := by
  rw [take, take]
  simp only [next, started]

/-- A stream to its end tells what its fan-out gathers, and then the summary. -/
theorem BroadcastStream.toList_idle {id : RequestId} {c : Coordinator} {rs : List RecipientId}
    {request : Request} {deadline : Nat} {w w' w'' : World} {f f' : FanOut}
    {reports : List Resolution} (started : FanOut.start c rs request deadline w = (f, w'))
    (gathered : f.gather (f.slots.length + 1) w' = (reports, f', w'')) :
    toList ⟨id, .idle c rs request deadline⟩ w =
      (reports.map BroadcastEvent.ofResolution ++ f'.summary, ⟨id, .ended⟩, (f'.finish w'').2) := by
  have listed := FanOut.recipients_start c rs request deadline w
  rw [started] at listed
  have slots : f.slots.length = rs.length := by
    rw [← listed, List.length_map]
  have fewer := f.missing_sublist.length_le
  rw [List.length_map] at fewer
  have told := FanOut.take_running id (f.slots.length + 1) (Nat.lt_succ_of_le fewer) gathered
  rw [slots] at told
  exact (BroadcastStream.take_idle _ started).trans told

/-- Either the request is on a channel and nothing has gone wrong, or that is why it is on none. -/
theorem FanOut.setup_start (c : Coordinator) (rs : List RecipientId) (request : Request)
    (wait : Nat) (w : World) :
    (∃ fault, (w.connect (c.topic "broadcast" request.requestId) rs request).1 = .error fault ∧
        (start c rs request wait w).1.setupFailure =
          some (fault.broadcastText (c.topic "broadcast" request.requestId))) ∨
      ∃ ch, (w.connect (c.topic "broadcast" request.requestId) rs request).1 = .ok ch ∧
        (start c rs request wait w).1.setupFailure = none ∧
        (start c rs request wait w).1.notes = [] := by
  cases connected : (w.connect (c.topic "broadcast" request.requestId) rs request).1 with
  | error fault =>
    left
    refine ⟨fault, rfl, ?_⟩
    simp only [start, connected]
  | ok ch =>
    right
    refine ⟨ch, rfl, ?_, ?_⟩
    · simp only [start, connected]
    · simp only [start, connected]
      rfl

namespace Coordinator

variable (c : Coordinator) {recipients : List RecipientId} {payload : Json} {deadline : Nat}

theorem length_slots_setOut {w w' : World} {f : FanOut}
    (started : c.setOut recipients payload deadline w = (f, w')) :
    f.slots.length = (distinct recipients).length := by
  have listed := FanOut.recipients_start c (distinct recipients) (w.newRequest payload).1 deadline
    (w.newRequest payload).2
  rw [← setOut_eq, started] at listed
  rw [← listed, List.length_map]

/-- A stream to its end does what the broadcast does, and tells of each report. -/
theorem toList_stream {w w' w'' : World} {f f' : FanOut} {reports : List Resolution}
    (started : c.setOut recipients payload deadline w = (f, w'))
    (gathered : f.gather (f.slots.length + 1) w' = (reports, f', w'')) :
    BroadcastStream.toList
        ⟨(w.newRequest payload).1.requestId,
          .idle c (distinct recipients) (w.newRequest payload).1 deadline⟩
        (w.newRequest payload).2 =
      (reports.map BroadcastEvent.ofResolution ++ f'.summary,
        ⟨(w.newRequest payload).1.requestId, .ended⟩, (f'.finish w'').2) :=
  BroadcastStream.toList_idle started gathered

/--
A stream that is read to its end. It tells of the outcome that the broadcast has in the same world,
and leaves the same world behind; its events are those of the first replies in order, with a summary
of the missing at the end if there are any.
-/
theorem stream_agrees (w : World) (accepted : broadcastRefusal? recipients payload deadline = none) :
    ∃ s v events w' o log,
      c.stream recipients payload deadline w = (.ok s, v) ∧
      s.toList v = (events, ⟨s.requestId, .ended⟩, w') ∧
      c.broadcast recipients payload deadline w = (.ok o, w') ∧
      BroadcastOutcome.ofEvents s.requestId events = o ∧
      w'.calls = log.reverse ++ w.calls ∧
      BroadcastEvent.Tells events recipients
        ((v.connect (c.topic "broadcast" s.requestId) (distinct recipients)
          ⟨s.requestId, payload⟩).1.mapError (·.broadcastText (c.topic "broadcast" s.requestId)))
        (Call.readings log) := by
  rcases started : c.setOut recipients payload deadline w with ⟨f, w'⟩
  rcases gathered : f.gather (f.slots.length + 1) w' with ⟨reports, f', w''⟩
  obtain ⟨all, enough⟩ := missing_lt_slots c started
  obtain ⟨log, run⟩ := FanOut.gather_run (f.slots.length + 1) f w'
  rw [gathered] at run
  obtain ⟨whole, calls, readings⟩ := FanOut.calls_throughout started run
  have same : f'.requestId = (w.newRequest payload).1.requestId := by
    have begun : (c.setOut recipients payload deadline w).1.requestId =
        (w.newRequest payload).1.requestId := rfl
    rw [started] at begun
    exact run.sameCall.requestId.trans begun
  refine ⟨_, _, _, _, _, whole, ?_, toList_stream c started gathered,
    broadcast_eq c w accepted started gathered, ?_, calls, ?_⟩
  · simp only [stream, accepted]
  · rw [same]
    exact FanOut.ofEvents_summary _ _ _
  · rw [readings]
    rcases FanOut.setup_start c (distinct recipients) (w.newRequest payload).1 deadline
      (w.newRequest payload).2 with ⟨fault, connected, setup⟩ | ⟨ch, connected, setup, clean⟩
    · rw [← setOut_eq, started] at setup
      have once : f.missing.Nodup := all ▸ distinct_nodup recipients
      obtain ⟨refused, done⟩ := FanOut.gather_refused setup once enough gathered
      rw [refused, all]
      have tells := BroadcastEvent.tells_of_refused
        (fault.broadcastText (c.topic "broadcast" (w.newRequest payload).1.requestId)) recipients done
        (Call.readings log)
      exact connected ▸ tells
    · rw [← setOut_eq, started] at setup clean
      have tells := BroadcastEvent.tells_of_run run setup clean all ch
      exact connected ▸ tells

/-- A stream whose channel breaks before everybody has reported, over a store that refuses once. -/
theorem stream_agrees_rehearsal :
    ∃ s v events w' o,
      rehearsal.stream [⟨"a"⟩, ⟨"b"⟩, ⟨"a"⟩, ⟨"c"⟩] (.string "hi") 50
          (World.rehearsal [.refuse, .proceed]) = (.ok s, v) ∧
        s.toList v = (events, ⟨s.requestId, .ended⟩, w') ∧
        rehearsal.broadcast [⟨"a"⟩, ⟨"b"⟩, ⟨"a"⟩, ⟨"c"⟩] (.string "hi") 50
          (World.rehearsal [.refuse, .proceed]) = (.ok o, w') ∧
        BroadcastOutcome.ofEvents s.requestId events = o ∧ (BroadcastEvent.senders events).Nodup := by
  have accepted : broadcastRefusal? [⟨"a"⟩, ⟨"b"⟩, ⟨"a"⟩, ⟨"c"⟩] (.string "hi") 50 = none := by
    decide
  obtain ⟨s, v, events, w', o, log, streamed, told, done, same, -, tells⟩ :=
    stream_agrees rehearsal (World.rehearsal [.refuse, .proceed]) accepted
  exact ⟨s, v, events, w', o, streamed, told, done, same, tells.once⟩

end Coordinator

end RollCall
