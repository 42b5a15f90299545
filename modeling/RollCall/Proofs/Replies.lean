import RollCall.Proofs.FanOut

set_option autoImplicit false

/-!
What a fan-out makes of what it reads. Its reports are the first replies of the recipients, in the
order in which the channel handed them out, and it reads only while somebody is still owed.
-/
namespace RollCall

def Call.reading? : Call → Option Reading
  | .read reading => some reading
  | _ => none

def Call.readings (log : List Call) : List Reading := log.filterMap reading?

namespace Reading

def message? : Reading → Option Message
  | .message r => some r.message
  | _ => none

def fault? : Reading → Option Error
  | .failed e => some e
  | _ => none

def messages (readings : List Reading) : List Message := readings.filterMap message?

end Reading

@[simp] theorem Call.readings_append (log later : List Call) :
    Call.readings (log ++ later) = Call.readings log ++ Call.readings later :=
  List.filterMap_append

@[simp] theorem Reading.messages_append (readings later : List Reading) :
    Reading.messages (readings ++ later) = Reading.messages readings ++ Reading.messages later :=
  List.filterMap_append

def Resolution.ofMessage (m : Message) : Resolution := ⟨m.sender, m.body.classify⟩

/-- What a recipient reports when the request was never on a channel. -/
def Resolution.refused (failure : String) (r : RecipientId) : Resolution :=
  ⟨r, .error ⟨.transportFailure, failure⟩⟩

/-- The first message of a sender. -/
def firstReply? (ms : List Message) (r : RecipientId) : Option Message :=
  ms.find? (·.sender = r)

/-- The first message of each recipient that is owed one, in order. -/
def firstReplies : List RecipientId → List Message → List Message
  | _, [] => []
  | pending, m :: ms =>
    if m.sender ∈ pending then m :: firstReplies (pending.filter (· ≠ m.sender)) ms
    else firstReplies pending ms

theorem firstReply?_eq_some {ms : List Message} {r : RecipientId} {m : Message}
    (found : firstReply? ms r = some m) : m ∈ ms ∧ m.sender = r :=
  ⟨List.mem_of_find?_eq_some found, by simpa using List.find?_some found⟩

theorem firstReply?_eq_none_iff {ms : List Message} {r : RecipientId} :
    firstReply? ms r = none ↔ ∀ m ∈ ms, m.sender ≠ r := by
  simp [firstReply?]

/-- What comes later does not change whose message was first. -/
theorem firstReply?_of_isPrefix {ms ns : List Message} {r : RecipientId} {m : Message}
    (first : ms <+: ns) (found : firstReply? ms r = some m) : firstReply? ns r = some m := by
  obtain ⟨later, rfl⟩ := first
  unfold firstReply? at *
  rw [List.find?_append, found]
  rfl

/-- Who is owed a reply is heard at the first message that names them as its sender. -/
theorem mem_firstReplies_iff {pending : List RecipientId} {ms : List Message} {m : Message} :
    m ∈ firstReplies pending ms ↔
      m.sender ∈ pending ∧ firstReply? ms m.sender = some m := by
  unfold firstReply?
  induction ms generalizing pending with
  | nil => simp [firstReplies]
  | cons n ms ih =>
    by_cases owed : n.sender ∈ pending
    · rw [firstReplies, if_pos owed, List.mem_cons, ih, List.find?_cons]
      by_cases same : n.sender = m.sender
      · simp [← same, owed, eq_comm]
      · have different : m ≠ n := by
          intro equal
          exact same (equal ▸ rfl)
        simp [same, different, Ne.symm same]
    · rw [firstReplies, if_neg owed, ih, List.find?_cons]
      by_cases same : n.sender = m.sender
      · simp [← same, owed]
      · simp [same]

@[simp] theorem firstReplies_of_nobody (ms : List Message) : firstReplies [] ms = [] := by
  induction ms with
  | nil => rfl
  | cons m ms ih => simpa [firstReplies] using ih

/-- Once everybody has been heard nothing that follows counts. -/
theorem firstReplies_append_of_heard {pending : List RecipientId} {ms : List Message}
    (heard : ∀ r ∈ pending, ∃ m ∈ ms, m.sender = r) (later : List Message) :
    firstReplies pending (ms ++ later) = firstReplies pending ms := by
  induction ms generalizing pending with
  | nil =>
    have nobody : pending = [] := by
      apply List.eq_nil_iff_forall_not_mem.2
      intro r owed
      obtain ⟨m, member, -⟩ := heard r owed
      cases member
    simp [nobody]
  | cons m ms ih =>
    rw [List.cons_append, firstReplies, firstReplies]
    split
    · congr 1
      apply ih
      intro r owed
      obtain ⟨member, different⟩ := List.mem_filter.1 owed
      obtain ⟨n, found, rfl⟩ := heard r member
      rcases List.mem_cons.1 found with rfl | later
      · simp at different
      · exact ⟨n, later, rfl⟩
    · rename_i stranger
      apply ih
      intro r owed
      obtain ⟨n, found, rfl⟩ := heard r owed
      rcases List.mem_cons.1 found with rfl | later
      · exact absurd owed stranger
      · exact ⟨n, later, rfl⟩

namespace FanOut

variable {f f' : FanOut} {w w' : World} {log : List Call} {r : Option Resolution}
  {rs : List Resolution}

/-- What a step makes of its message, whatever is read later. -/
theorem Step.replies (step : Step f w log r f' w') (setup : f.setupFailure = none)
    (later : List Message) :
    (firstReplies f.missing (Reading.messages (Call.readings log) ++ later)).map Resolution.ofMessage =
      r.toList ++ (firstReplies f'.missing later).map Resolution.ofMessage := by
  cases step with
  | refused failed pending => simp [setup] at failed
  | cutOff awaits read => rfl
  | idle awaits read => rfl
  | broken awaits read => rfl
  | @ignored _ _ _ m awaits read unknown =>
    have skipped : firstReplies f.missing (m.message :: later) = firstReplies f.missing later := by
      rw [firstReplies]
      exact if_neg unknown
    exact congrArg (List.map Resolution.ofMessage) skipped
  | @reported w' c c' m step awaits read known =>
    have owed := mem_missing_of_pendingStep? known
    have left := (Step.reported awaits read known).missing.2
    rw [left]
    show (firstReplies f.missing (⟨m.sender, m.body, m.addressedTo⟩ :: later)).map
      Resolution.ofMessage = _
    rw [firstReplies, if_pos owed]
    simp [Resolution.ofMessage]

/-- The reports of a run are the first replies of those who were owed one. -/
theorem Run.replies (run : Run f w log rs f' w') (setup : f.setupFailure = none) :
    rs = (firstReplies f.missing (Reading.messages (Call.readings log))).map
      Resolution.ofMessage := by
  induction run with
  | refl => rfl
  | @step _ _ _ _ _ _ used log r rs first rest ih =>
    rw [ih (first.sameCall.setupFailure.trans setup), ← first.replies setup, Call.readings_append,
      Reading.messages_append]

/-- When nobody is owed a report any more, everybody who was has been heard. -/
theorem Run.heard (run : Run f w log rs f' w') (setup : f.setupFailure = none)
    (done : f'.missing = []) {q : RecipientId} (owed : q ∈ f.missing) :
    ∃ m, firstReply? (Reading.messages (Call.readings log)) q = some m := by
  have left := run.missing.2.2
  rw [done, eq_comm, List.filter_eq_nil_iff] at left
  have reported := left q owed
  rw [decide_eq_true_iff, not_not, run.replies setup, List.map_map] at reported
  obtain ⟨m, first, sender⟩ := List.mem_map.1 reported
  have named : m.sender = q := sender
  rw [← named]
  exact ⟨m, (mem_firstReplies_iff.1 first).2⟩

/-- When there is nothing to wait for nothing more is read. -/
theorem Run.eq_of_over (run : Run f w log rs f' w') (setup : f.setupFailure = none)
    (ended : f.Over w) : log = [] ∧ rs = [] ∧ f' = f ∧ w' = w := by
  have idle {c : Channel} (awaits : f.Awaits w c) : False := by
    rcases ended with done | late | released
    · exact awaits.pending done
    · exact Nat.not_le_of_lt awaits.early late
    · simp [awaits.channel] at released
  cases run with
  | refl => exact ⟨rfl, rfl, rfl, rfl⟩
  | step first rest =>
    cases first with
    | refused failed pending => simp [setup] at failed
    | cutOff awaits read => exact (idle awaits).elim
    | idle awaits read => exact (idle awaits).elim
    | broken awaits read => exact (idle awaits).elim
    | ignored awaits read unknown => exact (idle awaits).elim
    | reported awaits read known => exact (idle awaits).elim

/-- The only note that a run adds is that of the error at which the channel broke. -/
theorem Run.notes (run : Run f w log rs f' w') (setup : f.setupFailure = none) :
    f'.notes = f.notes ++
      (((Call.readings log).findSome? Reading.fault?).map brokenNote).toList := by
  induction run with
  | refl => simp [Call.readings]
  | step first rest ih =>
    have later := ih (first.sameCall.setupFailure.trans setup)
    cases first with
    | refused failed pending => simp [setup] at failed
    | cutOff awaits read => exact later
    | idle awaits read => exact later
    | ignored awaits read unknown => exact later
    | reported awaits read known => exact later
    | broken awaits read =>
      obtain ⟨rfl, -, rfl, -⟩ := rest.eq_of_over setup (Or.inr (Or.inr rfl))
      rfl

/-- Who is owed a report after a step was owed one before, and was not heard. -/
theorem Step.unheard (step : Step f w log r f' w') (setup : f.setupFailure = none)
    {q : RecipientId} (owed : q ∈ f'.missing) :
    q ∈ f.missing ∧ ∀ m ∈ Reading.messages (Call.readings log), m.sender ≠ q := by
  have left := step.missing.2
  rw [left] at owed
  obtain ⟨before, silent⟩ := List.mem_filter.1 owed
  refine ⟨before, ?_⟩
  cases step with
  | refused failed pending => simp [setup] at failed
  | cutOff awaits read => simp [Call.readings, Call.reading?, Reading.messages, Reading.message?]
  | idle awaits read => simp [Call.readings, Call.reading?, Reading.messages, Reading.message?]
  | broken awaits read => simp [Call.readings, Call.reading?, Reading.messages, Reading.message?]
  | ignored awaits read unknown =>
    intro n member equal
    cases List.mem_singleton.1 member
    rw [← equal] at before
    exact unknown before
  | reported awaits read known =>
    intro n member equal
    cases List.mem_singleton.1 member
    simp [← equal] at silent

/-- A step reads once at most, and only while somebody is owed a report. -/
theorem Step.readings (step : Step f w log r f' w') :
    Call.readings log = [] ∨ f.missing ≠ [] ∧ ∃ reading, Call.readings log = [reading] := by
  cases step with
  | refused failed pending => exact Or.inl rfl
  | cutOff awaits read => exact Or.inr ⟨awaits.pending, _, rfl⟩
  | idle awaits read => exact Or.inr ⟨awaits.pending, _, rfl⟩
  | broken awaits read => exact Or.inr ⟨awaits.pending, _, rfl⟩
  | ignored awaits read unknown => exact Or.inr ⟨awaits.pending, _, rfl⟩
  | reported awaits read known => exact Or.inr ⟨awaits.pending, _, rfl⟩

/-- Each time the channel is read some recipient has not been heard before. -/
theorem Run.attentive (run : Run f w log rs f' w') (setup : f.setupFailure = none)
    {before after : List Reading} {reading : Reading}
    (split : Call.readings log = before ++ reading :: after) :
    ∃ q ∈ f.missing, ∀ m ∈ Reading.messages before, m.sender ≠ q := by
  induction run generalizing before with
  | refl => simp [Call.readings] at split
  | @step f _ _ _ _ _ used log r rs first rest ih =>
    have setupLater := first.sameCall.setupFailure.trans setup
    have inRest (middle : List Reading) (whole : before = Call.readings used ++ middle)
        (later : Call.readings log = middle ++ reading :: after) :
        ∃ q ∈ f.missing, ∀ m ∈ Reading.messages before, m.sender ≠ q := by
      obtain ⟨q, owed, silent⟩ := ih setupLater later
      obtain ⟨owedBefore, silentBefore⟩ := first.unheard setup owed
      refine ⟨q, owedBefore, ?_⟩
      intro m member
      rw [whole, Reading.messages_append] at member
      rcases List.mem_append.1 member with early | late
      · exact silentBefore m early
      · exact silent m late
    rw [Call.readings_append] at split
    rcases first.readings with none | ⟨pending, x, once⟩
    · exact inRest before (by simp [none]) (by simpa [none] using split)
    · rw [once] at split
      cases before with
      | nil =>
        obtain ⟨q, owed⟩ := List.exists_mem_of_ne_nil _ pending
        exact ⟨q, owed, by simp [Reading.messages]⟩
      | cons y before =>
        obtain ⟨rfl, later⟩ := List.cons.inj split
        exact inRest before (by rw [once]; rfl) later

theorem missing_fill_head {others : List RecipientId} {q : RecipientId}
    {result : Except RemoteError String} (filled : f'.slots = fill q result f.slots)
    (all : f.missing = q :: others) (once : f.missing.Nodup) : f'.missing = others := by
  rw [all] at once
  have fresh : ∀ s ∈ others, decide (s ≠ q) = true := by
    intro s member
    have different : s ≠ q := fun same => (List.nodup_cons.1 once).1 (same ▸ member)
    simpa using different
  rw [missing_fill filled, all, List.filter_cons_of_neg (by simp), List.filter_eq_self.2 fresh]

/-- Without a channel the recipients report one after another, and nothing is read. -/
theorem Run.refusals (run : Run f w log rs f' w') {failure : String}
    (setup : f.setupFailure = some failure) (once : f.missing.Nodup) :
    log = [] ∧
      f.missing.map (Resolution.refused failure) =
        rs ++ f'.missing.map (Resolution.refused failure) := by
  induction run with
  | refl => exact ⟨rfl, rfl⟩
  | @step f _ _ _ _ _ _ _ _ rs first rest ih =>
    have setupLater := first.sameCall.setupFailure.trans setup
    obtain ⟨r, pending, rfl, rfl, rfl, rfl⟩ := first.of_setupFailure setup
    rw [firstPending?_eq_head?] at pending
    obtain ⟨others, all⟩ := List.head?_eq_some_iff.1 pending
    have left : FanOut.missing
        { f with slots := fill r (.error ⟨.transportFailure, failure⟩) f.slots } = others :=
      missing_fill_head rfl all once
    rw [left] at ih
    rw [all] at once
    obtain ⟨silent, later⟩ := ih setupLater (List.nodup_cons.1 once).2
    refine ⟨by simp [silent], ?_⟩
    rw [all, List.map_cons, later]
    rfl

/-- Without a channel everybody reports, and gathering stops when everybody has. -/
theorem gather_refused {count : Nat} {failure : String} (setup : f.setupFailure = some failure)
    (once : f.missing.Nodup) (enough : f.missing.length < count)
    (gathered : f.gather count w = (rs, f', w')) :
    rs = f.missing.map (Resolution.refused failure) ∧ f'.missing = [] := by
  obtain ⟨g, v, log, run, last⟩ := gather_last count f w enough
  rw [gathered] at run last
  have setupLast := run.sameCall.setupFailure.trans setup
  have nobody : g.missing = [] ∧ f' = g := by
    simp only [next, setupLast] at last
    split at last
    · cases last
    · rename_i none
      cases last
      rw [firstPending?_eq_head?, List.head?_eq_none_iff] at none
      exact ⟨none, rfl⟩
  obtain ⟨done, rfl⟩ := nobody
  have all := (run.refusals setup once).2
  rw [done, List.map_nil, List.append_nil] at all
  exact ⟨all.symm, done⟩

end FanOut

/-- Putting a request on a channel reads nothing. -/
theorem World.calls_connect (topic : String) (recipients : List RecipientId) (request : Request)
    (w : World) : ∃ log, (w.connect topic recipients request).2.calls = log.reverse ++ w.calls ∧
      Call.readings log = [] := by
  unfold connect
  rcases opened : w.openChannel topic recipients with ⟨channel, v⟩
  have openedCalls : v.calls = .open topic recipients :: w.calls := by
    cases opened
    exact calls_await _ _
  cases channel with
  | error e => exact ⟨[.open topic recipients], openedCalls, rfl⟩
  | ok c =>
    rcases published : v.publish request c with ⟨outcome, u⟩
    have publishedCalls : u.calls = .publish request.payload :: v.calls := by
      cases published
      exact calls_await _ _
    cases outcome with
    | error e =>
      refine ⟨[.open topic recipients, .publish request.payload, .release c.unread], ?_, rfl⟩
      simp [published, release, log, publishedCalls, openedCalls]
    | ok c' =>
      refine ⟨[.open topic recipients, .publish request.payload], ?_, rfl⟩
      simp [published, publishedCalls, openedCalls]

/-- Nor does the end of a fan-out. -/
theorem FanOut.calls_finish (f : FanOut) (w : World) :
    ∃ log, (f.finish w).2.calls = log.reverse ++ w.calls ∧ Call.readings log = [] := by
  unfold finish releaseChannel
  cases f.channel with
  | none => exact ⟨[], rfl, rfl⟩
  | some c => exact ⟨[.release c.unread], rfl, rfl⟩

/-- All that a fan-out reads it reads between its start and its end. -/
theorem FanOut.calls_throughout {c : Coordinator} {recipients : List RecipientId}
    {request : Request} {wait : Nat} {w w' w'' : World} {f f' : FanOut} {log : List Call}
    {rs : List Resolution} (started : start c recipients request wait w = (f, w'))
    (run : Run f w' log rs f' w'') :
    ∃ all, (f'.finish w'').2.calls = all.reverse ++ w.calls ∧
      Call.readings all = Call.readings log := by
  obtain ⟨early, connected, noneBefore⟩ :=
    w.calls_connect (c.topic "broadcast" request.requestId) recipients request
  obtain ⟨late, finished, noneAfter⟩ := f'.calls_finish w''
  have startedCalls : w'.calls = early.reverse ++ w.calls := by
    rw [← connected]
    cases started
    rfl
  refine ⟨early ++ (log ++ late), ?_, ?_⟩
  · rw [finished, run.calls, startedCalls]
    simp
  · rw [Call.readings_append, Call.readings_append, noneBefore, noneAfter]
    simp

end RollCall
