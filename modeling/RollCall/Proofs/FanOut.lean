import RollCall.Broadcast.Collect
import RollCall.Proofs.Recipients
import RollCall.Proofs.Recording

set_option autoImplicit false

/-!
What a fan-out can do. Each step either notes the report of a recipient that was still owed or
leaves the reports as they are, so that over a whole run the reports come from different recipients
and those who are left are the missing.
-/
namespace RollCall

namespace FanOut

theorem recipient_fill (r : RecipientId) (result : Except RemoteError String) (slots : List Slot) :
    (fill r result slots).map Slot.recipient = slots.map Slot.recipient := by
  unfold fill
  rw [List.map_map]
  apply List.map_congr_left
  intro s _
  dsimp only [Function.comp]
  split <;> rfl

theorem missing_fill {f f' : FanOut} {r : RecipientId} {result : Except RemoteError String}
    (filled : f'.slots = fill r result f.slots) : f'.missing = f.missing.filter (· ≠ r) := by
  simp only [missing, filled]
  generalize f.slots = slots
  induction slots with
  | nil => rfl
  | cons s rest ih =>
    by_cases same : s.recipient = r
    · cases owed : s.report.isNone <;> simpa [fill, same, owed] using ih
    · cases owed : s.report.isNone <;> simpa [fill, same, owed] using ih

theorem pendingStep?_eq_none_iff (f : FanOut) (r : RecipientId) :
    f.pendingStep? r = none ↔ r ∉ f.missing := by
  simp only [pendingStep?, missing, Option.map_eq_none_iff, List.find?_eq_none, List.mem_map,
    List.mem_filter, Bool.and_eq_true, beq_iff_eq, not_and, not_exists]
  constructor
  · intro absent s owed same
    exact absent s owed.1 same owed.2
  · intro absent s member same owed
    exact absent s ⟨member, owed⟩ same

theorem mem_missing_of_pendingStep? {f : FanOut} {r : RecipientId} {step : Option StepId}
    (known : f.pendingStep? r = some step) : r ∈ f.missing := by
  by_contra absent
  rw [(f.pendingStep?_eq_none_iff r).2 absent] at known
  cases known

theorem firstPending?_eq_head? (f : FanOut) : f.firstPending? = f.missing.head? := by
  rw [firstPending?, missing, List.head?_map, List.head?_filter]

theorem missing_sublist (f : FanOut) : f.missing.Sublist (f.slots.map Slot.recipient) :=
  List.filter_sublist.map Slot.recipient

def brokenNote (e : Error) : String := "channel read failed: " ++ e.message

structure Awaits (f : FanOut) (w : World) (c : Channel) : Prop where
  setup : f.setupFailure = none
  channel : f.channel = some c
  pending : f.missing ≠ []
  early : w.now < f.deadline

/-- What a fan-out can do in one step, with its uses of the transport and its report, if any. -/
inductive Step : FanOut → World → List Call → Option Resolution → FanOut → World → Prop
  /-- The request was never on a channel, which the next recipient reports. -/
  | refused {f : FanOut} {w : World} {failure : String} {r : RecipientId}
      (setup : f.setupFailure = some failure) (pending : f.firstPending? = some r) :
      Step f w [] (some ⟨r, .error ⟨.transportFailure, failure⟩⟩)
        { f with slots := fill r (.error ⟨.transportFailure, failure⟩) f.slots }
        (f.coordinator.endStep f.requestId (f.pendingStep? r).join false w)
  | cutOff {f : FanOut} {w w' : World} {c c' : Channel} (awaits : f.Awaits w c)
      (read : w.receive c f.deadline = (.cutOff, c', w')) :
      Step f w [.read .cutOff] none { f with channel := some c' } w'
  | idle {f : FanOut} {w w' : World} {c c' : Channel} (awaits : f.Awaits w c)
      (read : w.receive c f.deadline = (.nothing, c', w')) :
      Step f w [.read .nothing] none { f with channel := some c' } w'
  | broken {f : FanOut} {w w' : World} {c c' : Channel} {e : Error} (awaits : f.Awaits w c)
      (read : w.receive c f.deadline = (.failed e, c', w')) :
      Step f w [.read (.failed e), .release c'.unread] none
        { f with notes := f.notes ++ [brokenNote e], channel := none } (w'.release c')
  /-- A message of a stranger, or of a recipient that has reported. -/
  | ignored {f : FanOut} {w w' : World} {c c' : Channel} {m : Reply} (awaits : f.Awaits w c)
      (read : w.receive c f.deadline = (.message m, c', w')) (unknown : m.sender ∉ f.missing) :
      Step f w [.read (.message m)] none { f with channel := some c' } w'
  | reported {f : FanOut} {w w' : World} {c c' : Channel} {m : Reply} {step : Option StepId}
      (awaits : f.Awaits w c) (read : w.receive c f.deadline = (.message m, c', w'))
      (known : f.pendingStep? m.sender = some step) :
      Step f w [.read (.message m)] (some ⟨m.sender, m.body.classify⟩)
        { f with channel := some c', slots := fill m.sender m.body.classify f.slots }
        (f.coordinator.endStep f.requestId step m.body.classify.isOk w')

/-- Any number of steps, with their uses of the transport and their reports in order. -/
inductive Run : FanOut → World → List Call → List Resolution → FanOut → World → Prop
  | refl (f : FanOut) (w : World) : Run f w [] [] f w
  | step {f f' f'' : FanOut} {w w' w'' : World} {used log : List Call} {r : Option Resolution}
      {rs : List Resolution} (first : Step f w used r f' w') (rest : Run f' w' log rs f'' w'') :
      Run f w (used ++ log) (r.toList ++ rs) f'' w''

variable {f f' f'' : FanOut} {w w' w'' : World} {log log' : List Call}
  {r : Option Resolution} {rs ss : List Resolution}

theorem Step.run (step : Step f w log r f' w') : Run f w log r.toList f' w' := by
  simpa using Run.step step (Run.refl f' w')

theorem Run.trans (first : Run f w log rs f' w') (second : Run f' w' log' ss f'' w'') :
    Run f w (log ++ log') (rs ++ ss) f'' w'' := by
  induction first with
  | refl => exact second
  | step head _ ih =>
    rw [List.append_assoc, List.append_assoc]
    exact Run.step head (ih second)

/-- Without a channel there is one thing to do: the next recipient reports that there is none. -/
theorem Step.of_setupFailure (step : Step f w log r f' w') {failure : String}
    (setup : f.setupFailure = some failure) :
    ∃ q, f.firstPending? = some q ∧ log = [] ∧
      r = some ⟨q, .error ⟨.transportFailure, failure⟩⟩ ∧
      f' = { f with slots := fill q (.error ⟨.transportFailure, failure⟩) f.slots } ∧
      w' = f.coordinator.endStep f.requestId (f.pendingStep? q).join false w := by
  cases step with
  | @refused failure' q failed pending =>
    obtain rfl : failure' = failure := Option.some.inj (failed.symm.trans setup)
    exact ⟨q, pending, rfl, rfl, rfl, rfl⟩
  | cutOff awaits read => simp [awaits.setup] at setup
  | idle awaits read => simp [awaits.setup] at setup
  | broken awaits read => simp [awaits.setup] at setup
  | ignored awaits read unknown => simp [awaits.setup] at setup
  | reported awaits read known => simp [awaits.setup] at setup

/-- The uses of the transport are the ones that are logged. -/
theorem Step.calls (step : Step f w log r f' w') : w'.calls = log.reverse ++ w.calls := by
  have logged {c c' : Channel} {reading : Reading} {v : World}
      (read : w.receive c f.deadline = (reading, c', v)) : v.calls = .read reading :: w.calls := by
    cases read
    rfl
  cases step with
  | refused setup pending => rfl
  | cutOff awaits read => exact logged read
  | idle awaits read => exact logged read
  | broken awaits read => simp [World.release, World.log, logged read]
  | ignored awaits read unknown => exact logged read
  | reported awaits read known =>
    rw [Coordinator.calls_endStep]
    exact logged read

theorem Run.calls (run : Run f w log rs f' w') : w'.calls = log.reverse ++ w.calls := by
  induction run with
  | refl => rfl
  | step first _ ih => rw [ih, first.calls, List.reverse_append, List.append_assoc]

structure SameCall (f f' : FanOut) : Prop where
  coordinator : f'.coordinator = f.coordinator
  requestId : f'.requestId = f.requestId
  coordinatorStep : f'.coordinatorStep = f.coordinatorStep
  setupFailure : f'.setupFailure = f.setupFailure
  deadline : f'.deadline = f.deadline
  recipients : f'.slots.map Slot.recipient = f.slots.map Slot.recipient

theorem Step.sameCall (step : Step f w log r f' w') : SameCall f f' := by
  cases step with
  | refused setup pending => exact ⟨rfl, rfl, rfl, rfl, rfl, recipient_fill _ _ _⟩
  | cutOff awaits read => exact ⟨rfl, rfl, rfl, rfl, rfl, rfl⟩
  | idle awaits read => exact ⟨rfl, rfl, rfl, rfl, rfl, rfl⟩
  | broken awaits read => exact ⟨rfl, rfl, rfl, rfl, rfl, rfl⟩
  | ignored awaits read unknown => exact ⟨rfl, rfl, rfl, rfl, rfl, rfl⟩
  | reported awaits read known => exact ⟨rfl, rfl, rfl, rfl, rfl, recipient_fill _ _ _⟩

theorem Run.sameCall (run : Run f w log rs f' w') : SameCall f f' := by
  induction run with
  | refl => exact ⟨rfl, rfl, rfl, rfl, rfl, rfl⟩
  | step first _ ih =>
    have one := first.sameCall
    exact ⟨ih.coordinator.trans one.coordinator, ih.requestId.trans one.requestId,
      ih.coordinatorStep.trans one.coordinatorStep, ih.setupFailure.trans one.setupFailure,
      ih.deadline.trans one.deadline, ih.recipients.trans one.recipients⟩

/-- There is nothing to wait for any more. -/
def Over (f : FanOut) (w : World) : Prop :=
  f.missing = [] ∨ f.deadline ≤ w.now ∨ f.channel = none

def Progress.report? : Progress → Option Resolution
  | .reported r => some r
  | _ => none

theorem readOnce_of_over {f : FanOut} {w : World} (ended : f.Over w) :
    f.readOnce w = (.ended, f, w) := by
  unfold readOnce
  rcases ended with done | late | released
  · simp [done]
  · simp [late]
  · split
    · rfl
    · simp [released]

theorem awaits_of_not_over {f : FanOut} {w : World} (setup : f.setupFailure = none)
    (waiting : ¬ f.Over w) : ∃ c, f.Awaits w c := by
  simp only [Over, not_or] at waiting
  obtain ⟨pending, early, held⟩ := waiting
  obtain ⟨c, channel⟩ := Option.ne_none_iff_exists'.1 held
  exact ⟨c, setup, channel, pending, Nat.lt_of_not_le early⟩

theorem readOnce_of_awaits {f : FanOut} {w : World} {c : Channel} (awaits : f.Awaits w c) :
    f.readOnce w =
      heed { f with channel := some (w.receive c f.deadline).2.1 } (w.receive c f.deadline).1
        (w.receive c f.deadline).2.2 := by
  have pending : f.missing.isEmpty = false := by
    simpa using awaits.pending
  have early : ¬ f.deadline ≤ w.now := Nat.not_le_of_lt awaits.early
  simp [readOnce, pending, early, awaits.channel]

theorem step_of_awaits {f : FanOut} {w : World} {c : Channel} (awaits : f.Awaits w c) :
    ∃ log, Step f w log (f.readOnce w).1.report? (f.readOnce w).2.1 (f.readOnce w).2.2 := by
  rw [readOnce_of_awaits awaits]
  rcases received : w.receive c f.deadline with ⟨reading, c', w'⟩
  cases reading with
  | cutOff => exact ⟨_, Step.cutOff awaits received⟩
  | nothing => exact ⟨_, Step.idle awaits received⟩
  | failed e => exact ⟨_, Step.broken awaits received⟩
  | message m =>
    cases known : f.pendingStep? m.sender with
    | none =>
      have unknown := (f.pendingStep?_eq_none_iff m.sender).1 known
      have heeded : heed { f with channel := some c' } (.message m) w' =
          (.ignored, { f with channel := some c' }, w') := by
        have same : pendingStep? { f with channel := some c' } m.sender = none := known
        simp only [heed, same]
      rw [heeded]
      exact ⟨_, Step.ignored awaits received unknown⟩
    | some step =>
      have same : pendingStep? { f with channel := some c' } m.sender = some step := known
      simp only [heed, same]
      exact ⟨_, Step.reported awaits received known⟩

theorem readOnce_run (f : FanOut) (w : World) (setup : f.setupFailure = none) :
    ∃ log, Run f w log (f.readOnce w).1.report?.toList (f.readOnce w).2.1 (f.readOnce w).2.2 := by
  by_cases ended : f.Over w
  · rw [readOnce_of_over ended]
    exact ⟨[], Run.refl f w⟩
  · obtain ⟨c, awaits⟩ := awaits_of_not_over setup ended
    obtain ⟨log, step⟩ := step_of_awaits awaits
    exact ⟨log, step.run⟩

theorem readOn_run (allowance : Nat) (f : FanOut) (w : World) (setup : f.setupFailure = none) :
    ∃ log, Run f w log (f.readOn allowance w).1.toList (f.readOn allowance w).2.1
      (f.readOn allowance w).2.2 := by
  induction allowance generalizing f w with
  | zero => exact ⟨[], Run.refl f w⟩
  | succ allowance ih =>
    obtain ⟨log, once⟩ := readOnce_run f w setup
    rw [readOn]
    rcases looked : f.readOnce w with ⟨progress, f', w'⟩
    rw [looked] at once
    cases progress with
    | reported r => exact ⟨log, once⟩
    | ended => exact ⟨log, once⟩
    | ignored =>
      obtain ⟨later, rest⟩ := ih f' w' (once.sameCall.setupFailure.trans setup)
      exact ⟨log ++ later, once.trans rest⟩

theorem next_run (f : FanOut) (w : World) :
    ∃ log, Run f w log (f.next w).1.toList (f.next w).2.1 (f.next w).2.2 := by
  unfold next
  split
  · rename_i failure setup
    split
    · rename_i r pending
      exact ⟨[], (Step.refused setup pending).run⟩
    · exact ⟨[], Run.refl f w⟩
  · rename_i setup
    exact readOn_run _ f w setup

theorem gather_run (count : Nat) (f : FanOut) (w : World) :
    ∃ log, Run f w log (f.gather count w).1 (f.gather count w).2.1 (f.gather count w).2.2 := by
  induction count generalizing f w with
  | zero => exact ⟨[], Run.refl f w⟩
  | succ count ih =>
    obtain ⟨log, one⟩ := next_run f w
    rw [gather]
    rcases advanced : f.next w with ⟨r, f', w'⟩
    rw [advanced] at one
    cases r with
    | none => exact ⟨log, one⟩
    | some r =>
      obtain ⟨later, rest⟩ := ih f' w'
      exact ⟨log ++ later, one.trans rest⟩

theorem Step.missing (step : Step f w log r f' w') :
    (∀ s ∈ r, s.sender ∈ f.missing) ∧
      f'.missing = f.missing.filter (· ∉ r.toList.map Resolution.sender) := by
  have kept : f.missing = f.missing.filter (· ∉ ([] : List Resolution).map Resolution.sender) := by
    simp
  cases step with
  | refused setup pending =>
    rw [firstPending?_eq_head?] at pending
    refine ⟨?_, ?_⟩
    · intro s reported
      cases reported
      exact List.mem_of_head? pending
    · simpa using missing_fill (f := f) rfl
  | cutOff awaits read => exact ⟨by simp, kept⟩
  | idle awaits read => exact ⟨by simp, kept⟩
  | broken awaits read => exact ⟨by simp, kept⟩
  | ignored awaits read unknown => exact ⟨by simp, kept⟩
  | reported awaits read known =>
    refine ⟨?_, ?_⟩
    · intro s reported
      cases reported
      exact mem_missing_of_pendingStep? known
    · simpa using missing_fill (f := f) rfl

/-- Each report of a run is the first of a recipient that was owed one. -/
theorem Run.missing (run : Run f w log rs f' w') :
    (rs.map Resolution.sender).Nodup ∧ (∀ r ∈ rs, r.sender ∈ f.missing) ∧
      f'.missing = f.missing.filter (· ∉ rs.map Resolution.sender) := by
  induction run with
  | refl => simp
  | @step _ _ _ _ _ _ _ _ r rs first _ ih =>
    obtain ⟨owed, left⟩ := first.missing
    obtain ⟨once, owedLater, leftLater⟩ := ih
    have apart : ∀ s ∈ rs, s.sender ∉ r.toList.map Resolution.sender := by
      intro s member
      have owedAfter := owedLater s member
      rw [left] at owedAfter
      simpa using (List.mem_filter.1 owedAfter).2
    refine ⟨?_, ?_, ?_⟩
    · cases r with
      | none => simpa using once
      | some r =>
        refine List.nodup_cons.2 ⟨?_, once⟩
        intro repeated
        obtain ⟨s, member, same⟩ := List.mem_map.1 repeated
        exact apart s member (by simp [same])
    · intro s member
      rcases List.mem_append.1 member with head | tail
      · exact owed s (Option.mem_toList.1 head)
      · have owedAfter := owedLater s tail
        rw [left] at owedAfter
        exact (List.mem_filter.1 owedAfter).1
    · rw [leftLater, left, List.filter_filter]
      apply List.filter_congr
      intro s _
      rw [List.map_append, Bool.and_comm]
      simp [List.mem_append, not_or]

/-- A report leaves fewer who are owed one. -/
theorem next_fewer {s : Resolution} (reported : f.next w = (some s, f', w')) :
    f'.missing.length < f.missing.length := by
  obtain ⟨log, one⟩ := next_run f w
  rw [reported] at one
  obtain ⟨-, owed, left⟩ := one.missing
  rw [left]
  exact List.length_filter_lt_length_iff_exists.2 ⟨s.sender, owed s (by simp), by simp⟩

/-- With enough patience for all who are owed a report, gathering stops because there is none. -/
theorem gather_last (count : Nat) (f : FanOut) (w : World) (enough : f.missing.length < count) :
    ∃ g v log, Run f w log (f.gather count w).1 g v ∧
      g.next v = (none, (f.gather count w).2.1, (f.gather count w).2.2) := by
  induction count generalizing f w with
  | zero => omega
  | succ count ih =>
    obtain ⟨log, one⟩ := next_run f w
    rw [gather]
    rcases advanced : f.next w with ⟨r, f', w'⟩
    rw [advanced] at one
    cases r with
    | none => exact ⟨f, w, [], Run.refl f w, advanced⟩
    | some r =>
      have fewer := next_fewer advanced
      obtain ⟨g, v, later, rest, last⟩ := ih f' w' (by omega)
      exact ⟨g, v, log ++ later, one.trans rest, last⟩

end FanOut

end RollCall
