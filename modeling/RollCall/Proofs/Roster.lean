import RollCall.Broadcast.Roster
import RollCall.Proofs.Books
import RollCall.Proofs.Partition

set_option autoImplicit false

/-!
A fan-out that keeps its four accounts one beside the other. However often it is asked, they stay in
order, because a report is noted only for a recipient that has not reported; and it does what a
fan-out does that keeps one slot for each recipient.
-/
namespace RollCall

/-- A fan-out with slots that has been asked for reports, each time in any world over any
channel. -/
inductive FanOut.Reached (c : Coordinator) (recipients : List RecipientId) (request : Request)
    (wait : Nat) (w₀ : World) : FanOut → List Resolution → Prop
  | start : Reached c recipients request wait w₀ (start c recipients request wait w₀).1 []
  | next {f : FanOut} {rs : List Resolution} (before : Reached c recipients request wait w₀ f rs)
      (channel : Option Channel) (w : World) :
      Reached c recipients request wait w₀ (next { f with channel := channel } w).2.1
        (rs ++ (next { f with channel := channel } w).1.toList)

namespace Roster

def books (p : Roster) : Books := ⟨p.recipients, p.recipientSteps, p.resolved, p.anyFailed⟩

/-- What the recorder answers when the steps of a fan-out are opened. -/
def answers (c : Coordinator) (recipients : List RecipientId) (request : Request) (w : World) :
    List (Option StepId) :=
  (c.startSteps request.requestId (c.label :: recipients.map RecipientId.text)
    (w.connect (c.topic "broadcast" request.requestId) recipients request).2).1

/-- From one state to another with at most one report, which is entered in the books. -/
structure Advances (p : Roster) (r : Option Resolution) (q : Roster) : Prop where
  coordinator : q.coordinator = p.coordinator
  requestId : q.requestId = p.requestId
  coordinatorStep : q.coordinatorStep = p.coordinatorStep
  books : q.books = r.toList.foldl Books.enter p.books
  pending : ∀ s ∈ r, s.sender ∈ p.books.unresolved

/--
A fan-out that has been asked for reports any number of times, with the reports that it made. Each
time the world is any world, and the channel whatever has become of it.
-/
inductive Reached (c : Coordinator) (recipients : List RecipientId) (request : Request) (wait : Nat)
    (w₀ : World) : Roster → List Resolution → Prop
  | start : Reached c recipients request wait w₀ (start c recipients request wait w₀).1 []
  | next {p : Roster} {rs : List Resolution} (before : Reached c recipients request wait w₀ p rs)
      (channel : Option Channel) (w : World) :
      Reached c recipients request wait w₀ (next { p with channel := channel } w).2.1
        (rs ++ (next { p with channel := channel } w).1.toList)

variable {p q : Roster} {w w₀ : World} {r : Option Resolution} {rs : List Resolution}
  {c : Coordinator} {recipients : List RecipientId} {request : Request} {wait : Nat}

/-- All steps known are those of recipients. -/
def Keyed (p : Roster) : Prop := ∀ r, r ∈ p.recipientSteps.keys ↔ r ∈ p.recipients

theorem Advances.trans {r' : Option Resolution} {q' : Roster} (first : p.Advances none q)
    (second : q.Advances r' q') : p.Advances r' q' := by
  have books : q.books = p.books := first.books
  exact ⟨second.coordinator.trans first.coordinator, second.requestId.trans first.requestId,
    second.coordinatorStep.trans first.coordinatorStep, books ▸ second.books,
    books ▸ second.pending⟩

theorem advances_heed (keyed : p.Keyed) (reading : Reading) (w : World) :
    p.Advances (p.heed reading w).1.report? (p.heed reading w).2.1 := by
  cases reading with
  | cutOff => exact ⟨rfl, rfl, rfl, rfl, nofun⟩
  | nothing => exact ⟨rfl, rfl, rfl, rfl, nofun⟩
  | failed e => exact ⟨rfl, rfl, rfl, rfl, nofun⟩
  | message m =>
    simp only [heed]
    split
    · exact ⟨rfl, rfl, rfl, rfl, nofun⟩
    · rename_i known
      split
      · exact ⟨rfl, rfl, rfl, rfl, nofun⟩
      · rename_i unheard
        refine ⟨rfl, rfl, rfl, rfl, ?_⟩
        rintro s ⟨⟩
        show m.sender ∈ p.books.unresolved
        rw [Books.mem_unresolved_iff, books, ← keyed, ← RecipientMap.contains_iff,
          ← RecipientMap.contains_iff]
        exact ⟨by simpa using known, unheard⟩

theorem advances_readOnce (keyed : p.Keyed) (w : World) :
    p.Advances (p.readOnce w).1.report? (p.readOnce w).2.1 := by
  unfold readOnce
  split
  · exact ⟨rfl, rfl, rfl, rfl, nofun⟩
  · split
    · exact ⟨rfl, rfl, rfl, rfl, nofun⟩
    · split
      · exact ⟨rfl, rfl, rfl, rfl, nofun⟩
      · rename_i c channel
        have heeded := advances_heed (p := { p with channel := some (w.receive c p.deadline).2.1 })
          keyed (w.receive c p.deadline).1 (w.receive c p.deadline).2.2
        exact ⟨heeded.coordinator, heeded.requestId, heeded.coordinatorStep, heeded.books,
          heeded.pending⟩

theorem Advances.keyed (advances : p.Advances r q) (keyed : p.Keyed) : q.Keyed := by
  have books := advances.books
  have recipients : q.books.recipients = p.books.recipients := by
    rw [books, Books.recipients_foldl_enter]
  have steps : q.books.steps = p.books.steps := by
    rw [books, Books.steps_foldl_enter]
  intro s
  show s ∈ q.books.steps.keys ↔ s ∈ q.books.recipients
  rw [recipients, steps]
  exact keyed s

theorem advances_readOn (allowance : Nat) (keyed : p.Keyed) (w : World) :
    p.Advances (p.readOn allowance w).1 (p.readOn allowance w).2.1 := by
  induction allowance generalizing p w with
  | zero => exact ⟨rfl, rfl, rfl, rfl, nofun⟩
  | succ allowance ih =>
    have once := advances_readOnce keyed w
    rw [readOn]
    rcases looked : p.readOnce w with ⟨progress, q, w'⟩
    rw [looked] at once
    cases progress with
    | reported r => exact once
    | ended => exact once
    | ignored => exact once.trans (ih (once.keyed keyed) w')

/-- However the next report comes about, it is one of a recipient that has not reported. -/
theorem advances_next (keyed : p.Keyed) (w : World) : p.Advances (p.next w).1 (p.next w).2.1 := by
  unfold next
  split
  · split
    · rename_i first
      refine ⟨rfl, rfl, rfl, rfl, ?_⟩
      rintro s ⟨⟩
      have silent := List.find?_some first
      exact List.mem_filter.2 ⟨List.mem_of_find?_eq_some first, silent⟩
    · exact ⟨rfl, rfl, rfl, rfl, nofun⟩
  · exact advances_readOn _ keyed w

theorem length_answers (c : Coordinator) (recipients : List RecipientId) (request : Request)
    (w : World) : (answers c recipients request w).length = recipients.length + 1 := by
  rw [answers, Coordinator.startSteps, World.record, Recorder.length_startSteps, List.length_cons,
    List.length_map]

/-- Over any number of reports the books stay in order, and nothing else about them changes. -/
theorem Reached.inOrder (reached : Reached c recipients request wait w₀ p rs)
    (once : recipients.Nodup) (named : ∀ r ∈ recipients, ¬ r.Blank) :
    p.books.InOrder rs ∧
      p.books = rs.foldl Books.enter (.opened recipients (answers c recipients request w₀).tail) ∧
      p.coordinator = c ∧ p.requestId = request.requestId ∧
      p.coordinatorStep = (answers c recipients request w₀).head?.join := by
  induction reached with
  | start =>
    have all : recipients.length ≤ (answers c recipients request w₀).tail.length := by
      rw [List.length_tail, length_answers, Nat.add_sub_cancel]
    exact ⟨Books.inOrder_opened once named all, rfl, rfl, rfl, rfl⟩
  | @next p rs before channel w ih =>
    obtain ⟨inOrder, entered, coordinator, requestId, coordinatorStep⟩ := ih
    have advances := advances_next (p := { p with channel := channel }) inOrder.recorded w
    refine ⟨?_, ?_, advances.coordinator.trans coordinator, advances.requestId.trans requestId,
      advances.coordinatorStep.trans coordinatorStep⟩
    · rw [advances.books]
      cases report : (Roster.next { p with channel := channel } w).1 with
      | none =>
        rw [Option.toList_none, List.append_nil]
        exact inOrder
      | some r => exact inOrder.enter (advances.pending r report)
    · rw [advances.books, List.foldl_append, ← entered]
      rfl

/-- A fan-out with one slot for each recipient is in the same state. -/
structure Represents (p : Roster) (f : FanOut) : Prop where
  coordinator : f.coordinator = p.coordinator
  requestId : f.requestId = p.requestId
  coordinatorStep : f.coordinatorStep = p.coordinatorStep
  channel : f.channel = p.channel
  setupFailure : f.setupFailure = p.setupFailure
  deadline : f.deadline = p.deadline
  notes : f.notes = p.notes
  once : (f.slots.map Slot.recipient).Nodup
  books : f.books = p.books

/-- The same came of both, in the same world, and they are in the same state. -/
structure Agrees {α : Type} (a : α × Roster × World) (b : α × FanOut × World) : Prop where
  result : b.1 = a.1
  state : Represents a.2.1 b.2.1
  world : b.2.2 = a.2.2

variable {f : FanOut}

theorem represents_start (c : Coordinator) (once : recipients.Nodup) (request : Request) (wait : Nat)
    (w : World) :
    Represents (start c recipients request wait w).1 (FanOut.start c recipients request wait w).1 ∧
      (FanOut.start c recipients request wait w).2 = (start c recipients request wait w).2 := by
  have listed := FanOut.recipients_start c recipients request wait w
  have steps : (FanOut.start c recipients request wait w).1.slots.map
      (fun p => (p.recipient, p.step)) = recipients.zip (answers c recipients request w).tail := by
    simp only [FanOut.start, List.map_map]
    exact List.map_id _
  have silent : ∀ p ∈ (FanOut.start c recipients request wait w).1.slots, p.report = none := by
    intro p member
    obtain ⟨q, -, rfl⟩ := List.mem_map.1 member
    rfl
  have nobody :
      (FanOut.start c recipients request wait w).1.slots.filter (·.report.isSome) = [] := by
    rw [List.filter_eq_nil_iff]
    intro p member
    simp [silent p member]
  have unbroken : (FanOut.start c recipients request wait w).1.anyFailed = false := by
    rw [FanOut.anyFailed, List.any_eq_false]
    intro p member
    simp [silent p member]
  refine ⟨⟨rfl, rfl, rfl, rfl, rfl, rfl, rfl, ?_, ?_⟩, rfl⟩
  · rw [listed]
    exact once
  · rw [FanOut.books, listed, steps, nobody, unbroken]
    rfl

namespace Represents
variable (held : p.Represents f)
include held

theorem unresolved : f.missing = p.unresolved := by
  rw [FanOut.missing_eq_unresolved held.once, held.books]
  rfl

theorem firstUnresolved? : f.firstPending? = p.firstUnresolved? := by
  rw [FanOut.firstPending?_eq_head?, held.unresolved, Roster.unresolved, List.head?_filter]
  rfl

/-- As many have reported as are listed once nobody is missing. -/
theorem settled : f.missing = [] ↔ p.resolved.size = p.recipients.length := by
  have asked := f.resolved_subset
  have once := held.once
  have books := held.books
  rw [FanOut.missing_eq_unresolved once, Books.unresolved_eq_nil_iff once asked, books]
  rfl

theorem pendingStep? (s : RecipientId) :
    f.pendingStep? s = if p.resolved.contains s then none else p.recipientSteps.get? s := by
  rw [FanOut.pendingStep?_eq_ite held.once, held.books]
  rfl

/-- The report of a recipient that has not reported is noted in both. -/
theorem resolve {s : RecipientId} (owed : s ∈ f.missing) (result : Except RemoteError String)
    (w : World) :
    Agrees (p.resolve s result w) (f.resolve s (p.recipientSteps.get? s).join result w) := by
  have books : FanOut.books { f with slots := FanOut.fill s result f.slots } =
      f.books.enter ⟨s, result⟩ := FanOut.books_fill held.once owed rfl
  refine ⟨rfl, ⟨held.coordinator, held.requestId, held.coordinatorStep, held.channel,
    held.setupFailure, held.deadline, held.notes, ?_, ?_⟩, ?_⟩
  · show ((FanOut.fill s result f.slots).map Slot.recipient).Nodup
    rw [FanOut.recipient_fill]
    exact held.once
  · exact books.trans (congrArg (·.enter ⟨s, result⟩) held.books)
  · show f.coordinator.endStep f.requestId _ _ w = p.coordinator.endStep p.requestId _ _ w
    rw [held.coordinator, held.requestId]

theorem withChannel (channel : Option Channel) :
    Represents { p with channel := channel } { f with channel := channel } :=
  ⟨held.coordinator, held.requestId, held.coordinatorStep, rfl, held.setupFailure, held.deadline,
    held.notes, held.once, held.books⟩

theorem release (w : World) :
    Represents { p with channel := none } (f.releaseChannel w).1 ∧
      (f.releaseChannel w).2 = match p.channel with
        | some c => w.release c
        | none => w := by
  unfold FanOut.releaseChannel
  rw [← held.channel]
  cases channel : f.channel with
  | some c => exact ⟨held.withChannel none, rfl⟩
  | none =>
    exact ⟨⟨held.coordinator, held.requestId, held.coordinatorStep, channel, held.setupFailure,
      held.deadline, held.notes, held.once, held.books⟩, rfl⟩

theorem heed (reading : Reading) (w : World) : Agrees (p.heed reading w) (f.heed reading w) := by
  cases reading with
  | cutOff => exact ⟨rfl, held, rfl⟩
  | nothing => exact ⟨rfl, held, rfl⟩
  | failed e =>
    have noted : Represents { p with notes := p.notes ++ ["channel read failed: " ++ e.message] }
        { f with notes := f.notes ++ ["channel read failed: " ++ e.message] } :=
      ⟨held.coordinator, held.requestId, held.coordinatorStep, held.channel, held.setupFailure,
        held.deadline, by rw [held.notes], held.once, held.books⟩
    obtain ⟨state, world⟩ := noted.release w
    exact ⟨rfl, state, world⟩
  | message m =>
    have owed := held.pendingStep? m.sender
    simp only [Roster.heed]
    by_cases known : p.recipientSteps.contains m.sender = true
    · rw [if_neg (by simp [known])]
      by_cases heard : p.resolved.contains m.sender = true
      · rw [if_pos heard] at owed ⊢
        simp only [FanOut.heed, owed]
        exact ⟨rfl, held, rfl⟩
      · obtain ⟨step, found⟩ := Option.isSome_iff_exists.1 known
        rw [if_neg heard, found] at owed
        have resolved := held.resolve (FanOut.mem_missing_of_pendingStep? owed) m.body.classify w
        rw [found] at resolved
        rw [if_neg heard]
        simp only [FanOut.heed, owed]
        exact ⟨congrArg FanOut.Progress.reported resolved.result, resolved.state, resolved.world⟩
    · rw [if_pos (by simp [known])]
      rw [RecipientMap.contains, Bool.not_eq_true, Option.isSome_eq_false_iff,
        Option.isNone_iff_eq_none] at known
      rw [known, ite_self] at owed
      simp only [FanOut.heed, owed]
      exact ⟨rfl, held, rfl⟩

theorem readOnce (w : World) : Agrees (p.readOnce w) (f.readOnce w) := by
  unfold FanOut.readOnce Roster.readOnce
  by_cases all : f.missing = []
  · rw [if_pos (held.settled.1 all), if_pos (by simp [all])]
    exact ⟨rfl, held, rfl⟩
  · rw [if_neg (mt held.settled.2 all)]
    have deadline := held.deadline
    by_cases late : p.deadline ≤ w.now
    · rw [if_pos late, if_pos (by simp [deadline, late])]
      exact ⟨rfl, held, rfl⟩
    · rw [if_neg late, if_neg (by simp [all, deadline, late]), held.channel]
      cases p.channel with
      | none => exact ⟨rfl, held, rfl⟩
      | some c =>
        have heeded := (held.withChannel (some (w.receive c p.deadline).2.1)).heed
          (w.receive c p.deadline).1 (w.receive c p.deadline).2.2
        simpa only [deadline] using heeded

theorem readOn (allowance : Nat) (w : World) :
    Agrees (p.readOn allowance w) (f.readOn allowance w) := by
  induction allowance generalizing p f w with
  | zero => exact ⟨rfl, held, rfl⟩
  | succ allowance ih =>
    have once := held.readOnce w
    rw [FanOut.readOn, Roster.readOn]
    rcases looked : p.readOnce w with ⟨progress, q, v⟩
    rcases looked' : f.readOnce w with ⟨progress', g, v'⟩
    rw [looked, looked'] at once
    obtain ⟨rfl, state, rfl⟩ := once
    cases progress' with
    | reported r => exact ⟨rfl, state, rfl⟩
    | ended => exact ⟨rfl, state, rfl⟩
    | ignored => exact ih state v'

theorem next (w : World) : Agrees (p.next w) (f.next w) := by
  unfold FanOut.next Roster.next
  rw [held.setupFailure]
  cases p.setupFailure with
  | some failure =>
    have first := held.firstUnresolved?
    dsimp only
    rw [first]
    cases found : p.firstUnresolved? with
    | none => exact ⟨rfl, held, rfl⟩
    | some r =>
      have owed : r ∈ f.missing := by
        rw [found, FanOut.firstPending?_eq_head?] at first
        exact List.mem_of_head? first
      have unheard : p.resolved.contains r = false := by
        simpa using List.find?_some found
      have resolved := held.resolve owed (.error ⟨.transportFailure, failure⟩) w
      dsimp only
      rw [held.pendingStep?, unheard, if_neg Bool.false_ne_true]
      exact ⟨congrArg some resolved.result, resolved.state, resolved.world⟩
  | none =>
    have allowance : f.allowance w = p.allowance w := by
      rw [FanOut.allowance, Roster.allowance, held.channel]
    dsimp only
    rw [allowance]
    exact held.readOn _ w

theorem finish (w : World) :
    (p.finish w).1 = (f.finish w).1.missing ∧ Represents (p.finish w).2.1 (f.finish w).1 ∧
      (f.finish w).2 = (p.finish w).2.2 := by
  obtain ⟨state, world⟩ := held.release w
  have missing := state.unresolved
  have anyFailed : (f.releaseChannel w).1.anyFailed = p.anyFailed :=
    congrArg Books.anyFailed state.books
  have ended : (f.finish w).2 = p.coordinator.endStep p.requestId p.coordinatorStep
      (({ p with channel := none } : Roster).unresolved.isEmpty && !p.anyFailed)
      (f.releaseChannel w).2 := by
    simp only [FanOut.finish, missing, anyFailed, state.coordinator, state.requestId,
      state.coordinatorStep]
  exact ⟨missing.symm, state, ended.trans (congrArg _ world)⟩

end Represents

/-- However often it is asked, a fan-out with slots has made the same reports. -/
theorem Reached.represents (reached : Reached c recipients request wait w₀ p rs)
    (once : recipients.Nodup) :
    ∃ f, FanOut.Reached c recipients request wait w₀ f rs ∧ p.Represents f := by
  induction reached with
  | start => exact ⟨_, .start, (represents_start c once request wait w₀).1⟩
  | @next p rs before channel w ih =>
    obtain ⟨f, reached, held⟩ := ih
    have agrees := (held.withChannel channel).next w
    have again := reached.next channel w
    rw [agrees.result] at again
    exact ⟨_, again, agrees.state⟩

/--
A fan-out to recipients that a broadcast accepts, however often it has been asked for a report. Its
recipients are distinct and not blank; steps are known for them and for nobody else, and are those
that were opened under their own names by one write, or none at all; those who have reported are
recipients, one for each report; a failure is noted exactly if a report was one; and as many have
reported as are listed exactly if everybody has. The next report is of somebody who has not
reported.
-/
theorem books_kept {requested : List RecipientId} {payload : Json}
    (accepted : broadcastRefusal? requested payload wait = none)
    (reached : Reached c (distinct requested) request wait w₀ p rs) :
    p.recipients = distinct requested ∧ p.books.InOrder rs ∧
    p.books.Recorded c request.requestId p.coordinatorStep
      (w₀.connect (c.topic "broadcast" request.requestId) (distinct requested) request).2.journal
      (start c (distinct requested) request wait w₀).2.journal ∧
    (p.resolved.size = p.recipients.length ↔ ∀ r ∈ p.recipients, r ∈ p.resolved.keys) ∧
    (∀ channel w r, (next { p with channel := channel } w).1 = some r →
      r.sender ∈ p.recipients ∧ r.sender ∉ p.resolved.keys) ∧
    ∃ f, FanOut.Reached c (distinct requested) request wait w₀ f rs ∧ p.Represents f := by
  have once := distinct_nodup requested
  have named : ∀ r ∈ distinct requested, ¬ r.Blank := by
    intro r member blank
    exact broadcastRefusal?_eq_none_iff.1 accepted (.blank ((mem_distinct r requested).1 member) blank)
  obtain ⟨inOrder, entered, -, -, own⟩ := reached.inOrder once named
  have listed : p.books.recipients = distinct requested := by
    rw [entered, Books.recipients_foldl_enter]
    rfl
  have steps : p.books.steps = (Books.opened (distinct requested)
      (answers c (distinct requested) request w₀).tail).steps := by
    rw [entered, Books.steps_foldl_enter]
  refine ⟨listed, inOrder, ?_, Books.size_eq_length_iff inOrder.distinct inOrder.asked, ?_,
    reached.represents once⟩
  · have opened := Books.recorded_opened once (c.recorder.startSteps_answer request.requestId
      (c.label :: (distinct requested).map RecipientId.text)
      (w₀.connect (c.topic "broadcast" request.requestId) (distinct requested) request).2.journal)
    rw [own]
    cases opened with
    | nobody unknown nothing => exact .nobody unknown (listed ▸ steps ▸ nothing)
    | everybody written label known labels =>
      exact .everybody written label known (listed ▸ steps ▸ labels)
  · intro channel w r reported
    have advances := advances_next (p := { p with channel := channel }) inOrder.recorded w
    exact (Books.mem_unresolved_iff r.sender).1 (advances.pending r reported)

/-- A stranger, a repeat and three who are asked; the last of them answers in vain. -/
theorem books_kept_rehearsal :
    broadcastRefusal? [⟨"a"⟩, ⟨"b"⟩, ⟨"a"⟩, ⟨"c"⟩] (.string "hi") 50 = none ∧
    ∃ p rs, Reached Coordinator.rehearsal (distinct [⟨"a"⟩, ⟨"b"⟩, ⟨"a"⟩, ⟨"c"⟩])
        ⟨⟨"r"⟩, .string "hi"⟩ 50 (World.rehearsal []) p rs ∧
      rs.map Resolution.sender = [⟨"c"⟩, ⟨"b"⟩] ∧ p.recipients = [⟨"a"⟩, ⟨"b"⟩, ⟨"c"⟩] ∧
      p.books.InOrder rs ∧ p.anyFailed = true := by
  have accepted : broadcastRefusal? [⟨"a"⟩, ⟨"b"⟩, ⟨"a"⟩, ⟨"c"⟩] (.string "hi") 50 = none := by
    decide
  have outset : Reached Coordinator.rehearsal (distinct [⟨"a"⟩, ⟨"b"⟩, ⟨"a"⟩, ⟨"c"⟩])
      ⟨⟨"r"⟩, .string "hi"⟩ 50 (World.rehearsal []) _ _ := .start
  have first := outset.next
    (some (.playback ⟨"roll.broadcast.r", some 0, none, ScriptedChannel.rehearsal.events.take 3⟩))
    (World.rehearsal [.refuse])
  have second := first.next
    (some (.playback ⟨"roll.broadcast.r", some 0, none, ScriptedChannel.rehearsal.events.drop 3⟩))
    (World.rehearsal [.proceed, .stall 3])
  obtain ⟨listed, inOrder, -⟩ := books_kept accepted second
  refine ⟨accepted, _, _, second, ?_, listed, inOrder, ?_⟩
  · decide
  · decide

end Roster

end RollCall
