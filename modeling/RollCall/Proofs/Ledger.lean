import Mathlib.Logic.Function.Basic
import RollCall.Proofs.Dated
import RollCall.Proofs.Keeping

set_option autoImplicit false

/-!
What one use of the recorder makes of the traces of a store from which nothing is lost, whichever of
the store's operations fail. Either it does all that it was asked for, or the traces stay as they
are and no identifier is handed out.
-/
namespace RollCall

namespace Recording

def width : Recording → Nat
  | .start participants => participants.length
  | .finished _ _ _ => 1
  | .close _ => 0

def opening (a : Recording) (j : Journal) : List Step :=
  match a with
  | .start participants => (j.openAll participants).1
  | .finished participant startTime success =>
    [Step.finished (Journal.stepId j.stepCount) participant startTime j.clock.reading success]
  | .close _ => []

def closes : Recording → List (Option StepId × Bool)
  | .close closes => closes
  | _ => []

theorem length_opening (a : Recording) (j : Journal) : (a.opening j).length = a.width := by
  cases a with
  | start participants => exact Journal.length_openAll participants j
  | finished participant startTime success => rfl
  | close closes => rfl

theorem stepIds_opening (a : Recording) (j : Journal) :
    (a.opening j).map Step.stepId = j.freshIds a.width := by
  cases a with
  | start participants => exact Journal.stepIds_openAll participants j
  | finished participant startTime success => rfl
  | close closes => rfl

theorem dated_opening {a : Recording} (dated : a.Dated) {j : Journal} (known : j.clock.Dated) :
    ∀ s ∈ a.opening j, s.Dated := by
  cases a with
  | start participants => exact Journal.dated_openAll participants known
  | finished participant startTime success =>
    exact List.forall_mem_singleton.2 (Step.dated_finished _ _ dated (known _) _)
  | close closes => exact fun s member => (List.not_mem_nil member).elim

end Recording

/--
A step is closed in both respects or in neither, it does not end before it starts, and while it is
open it has started.
-/
structure Step.Proper (now : Timestamp) (s : Step) : Prop where
  both : s.endTime.isSome = s.success.isSome
  ends : ∀ t ∈ s.endTime, s.startTime ≤ t
  begun : s.isOpen = true → s.startTime ≤ now

namespace Step

theorem Proper.mono {now later : Timestamp} {s : Step} (proper : s.Proper now) (le : now ≤ later) :
    s.Proper later :=
  ⟨proper.both, proper.ends, fun still => Timestamp.le_trans (proper.begun still) le⟩

theorem proper_started (id : StepId) (participant : String) {start now : Timestamp}
    (le : start ≤ now) : (started id participant start).Proper now := by
  refine ⟨rfl, ?_, fun _ => le⟩
  intro t ended
  cases ended

theorem proper_finished (id : StepId) (participant : String) (startTime now later : Timestamp)
    (success : Bool) : (finished id participant startTime now success).Proper later := by
  refine ⟨rfl, ?_, ?_⟩
  · intro t ended
    cases ended
    exact Timestamp.le_latest now startTime
  · intro still
    cases still

theorem Proper.close {now later after : Timestamp} {s : Step} (proper : s.Proper now)
    (le : now ≤ later) (success : Bool) : (s.close later success).Proper after := by
  unfold Step.close
  split
  · rename_i still
    refine ⟨rfl, ?_, ?_⟩
    · intro t ended
      cases ended
      exact Timestamp.le_trans (proper.begun still) le
    · intro still
      cases still
  · rename_i shut
    exact ⟨proper.both, proper.ends, fun still => absurd still shut⟩

theorem Heeds.proper {closes : List (Option StepId × Bool)} {c d : Clock} {s s' : Step}
    (heeds : s.Heeds closes c d s') (forward : c.Forward) (onward : c.Onward d)
    (proper : s.Proper c.reading) : s'.Proper d.reading := by
  rcases heeds.closed_or_eq with rfl | ⟨n, success, -, le, -, rfl⟩
  · exact proper.mono (forward.reading_le onward)
  · exact proper.close (forward _ _ le) success

end Step

theorem Journal.proper_openAll (participants : List String) {j : Journal}
    (forward : j.clock.Forward) {n : Nat} (le : j.clock.taken + participants.length ≤ n) :
    ∀ s ∈ (j.openAll participants).1, s.Proper (j.clock.readings n) := by
  induction participants generalizing j with
  | nil => simp [openAll]
  | cons participant rest ih =>
    rw [List.length_cons] at le
    intro s member
    rw [openAll] at member
    rcases List.mem_cons.1 member with rfl | later
    · exact Step.proper_started _ _ (forward _ _ (by omega))
    · exact ih (j := { j with clock := j.clock.tick, stepCount := j.stepCount + 1 }) forward
        (show j.clock.taken + 1 + rest.length ≤ n by omega) s later

theorem Recording.proper_opening (a : Recording) {j : Journal} (forward : j.clock.Forward) {n : Nat}
    (le : j.clock.taken + a.width ≤ n) : ∀ s ∈ a.opening j, s.Proper (j.clock.readings n) := by
  cases a with
  | start participants => exact Journal.proper_openAll participants forward le
  | finished participant startTime success =>
    intro s member
    rw [List.mem_singleton.1 member]
    exact Step.proper_finished _ _ _ _ _ _
  | close closes =>
    intro s member
    cases member

namespace Journal

def held (j : Journal) (id : RequestId) : Option RequestTrace :=
  (j.store.load id j.clock.reading).1.toOption.join

def steps (j : Journal) (id : RequestId) : List Step := ((j.held id).map RequestTrace.steps).getD []

theorem steps_of_held {j : Journal} {id : RequestId} {t : RequestTrace} (held : j.held id = some t) :
    j.steps id = t.steps := by
  simp [steps, held]

theorem steps_of_none {j : Journal} {id : RequestId} (held : j.held id = none) : j.steps id = [] := by
  simp [steps, held]

theorem steps_congr {j k : Journal} {id : RequestId} (same : k.held id = j.held id) :
    k.steps id = j.steps id := by
  rw [steps, steps, same]

end Journal

namespace Recorder

/--
What holds of the journals of a store that loses nothing: a load that does not fail gives what is
held, a save that does not fail replaces it, one that fails changes nothing, and nothing expires.
All instants are those of the calendar, since a store that writes records as text can keep no
others.
-/
structure Retains (r : Recorder) (Sound : Journal → Prop) : Prop where
  known : ∀ {j}, Sound j → j.clock.Dated
  dated : ∀ {j}, Sound j → ∀ id, ∀ t ∈ j.held id, t.Dated
  load : ∀ {j}, Sound j → ∀ id, Sound (r.load id j).2 ∧ (r.load id j).2.held = j.held ∧
    ∀ t, (r.load id j).1 = .ok t → t = j.held id
  save : ∀ {j}, Sound j → ∀ t, t.Dated → Sound (r.save t j).2 ∧ (r.save t j).2.held =
    match (r.save t j).1 with
    | .ok _ => Function.update j.held t.requestId (some t)
    | .error _ => j.held
  pass : ∀ {j k : Journal}, Sound j → k.store = j.store → j.clock.Onward k.clock →
    Sound k ∧ k.held = j.held

def Falters (r : Recorder) (Sound : Journal → Prop) : Prop :=
  ∃ j, Sound j ∧ ((∃ id f, (r.load id j).1 = .error f) ∨
    ∃ t f, t.Dated ∧ (r.save t j).1 = .error f)

theorem Touches.onward {r : Recorder} {j k : Journal} (touches : Touches r j k) :
    j.clock.Onward k.clock := by
  have entered : j.clock.Onward (r.enter j).2.clock := Clock.onward_wait _ _
  cases touches with
  | entered => exact entered
  | carriedOut store broken script => exact entered.trans (Clock.onward_tick _)

/-- What the steps of a trace become when a use of the recorder is carried out. -/
def Amended (a : Recording) (j : Journal) (clock : Clock) (found steps : List Step) : Prop :=
  ∃ kept, steps = kept ++ a.opening j ∧
    List.Forall₂ (Step.Heeds a.closes j.clock clock) found kept

theorem Amended.later {a : Recording} {j : Journal} {c d : Clock} {found steps : List Step}
    (amended : Amended a j c found steps) (onward : c.Onward d) : Amended a j d found steps := by
  obtain ⟨kept, equal, heeds⟩ := amended
  refine ⟨kept, equal, heeds.imp ?_⟩
  intro s s' heeded
  exact heeded.widen (Clock.Onward.refl _) onward

/-- Where nothing is to be closed, steps are only appended. -/
theorem Amended.eq_append {a : Recording} {j : Journal} {clock : Clock} {found steps : List Step}
    (amended : Amended a j clock found steps) (only : a.closes = []) :
    steps = found ++ a.opening j := by
  obtain ⟨kept, rfl, heeds⟩ := amended
  have same : found = kept := eq_of_forall₂ heeds fun s s' heeded => by
    rw [only] at heeded
    exact Eq.symm heeded
  rw [same]

theorem amended_of_append {a : Recording} {j : Journal} {clock : Clock} (found : List Step)
    (only : a.closes = []) : Amended a j clock found (found ++ a.opening j) := by
  refine ⟨found, rfl, List.forall₂_same.2 ?_⟩
  intro s _
  exact Step.heeds_of_unnamed (by rw [only]; rfl)

/-- A use of the recorder that leaves the trace as it is. -/
structure Dropped (r : Recorder) (Sound : Journal → Prop) (id : RequestId) (a : Recording)
    (j : Journal) (answer : List (Option StepId)) (j' : Journal) : Prop where
  held : j'.held id = j.held id
  answer : answer = (a.opening j).map fun _ => none
  reason : id.isBlank = true ∨ r.Falters Sound

/-- A use of the recorder that is carried out. -/
structure Done (id : RequestId) (a : Recording) (j : Journal) (answer : List (Option StepId))
    (j' : Journal) : Prop where
  named : ∀ t ∈ j'.held id, t.requestId = id
  steps : Amended a j j'.clock (j.steps id) (j'.steps id)
  answer : answer = (a.opening j).map fun s => some s.stepId
  taken : j.clock.taken + a.width ≤ j'.clock.taken
  counted : j'.stepCount = j.stepCount + a.width

/-- What a use of the recorder can do. -/
structure Performed (r : Recorder) (Sound : Journal → Prop) (id : RequestId) (a : Recording)
    (j : Journal) (answer : List (Option StepId)) (j' : Journal) : Prop where
  sound : Sound j'
  onward : j.clock.Onward j'.clock
  counted : j.stepCount ≤ j'.stepCount
  most : j'.stepCount ≤ j.stepCount + a.width
  others : ∀ other, other ≠ id → j'.held other = j.held other
  outcome : r.Dropped Sound id a j answer j' ∨ Done id a j answer j'

/-- What is asked for of a request that has a name is carried out, unless the store fails. -/
theorem Performed.done {r : Recorder} {Sound : Journal → Prop} {id : RequestId} {a : Recording}
    {j j' : Journal} {answer : List (Option StepId)} (performed : r.Performed Sound id a j answer j')
    (healthy : ¬ r.Falters Sound) (named : id.isBlank = false) : Done id a j answer j' := by
  rcases performed.outcome with dropped | done
  · rcases dropped.reason with blank | falters
    · rw [named] at blank
      cases blank
    · exact absurd falters healthy
  · exact done

/-- What a use of the recorder may have drafted once it has read the trace. -/
inductive Drafts (r : Recorder) (Sound : Journal → Prop) (id : RequestId) (a : Recording)
    (j k : Journal) : Draft → Prop
  | dropped (reason : id.isBlank = true ∨ r.Falters Sound) :
    Drafts r Sound id a j k (.settled ((a.opening j).map fun _ => none))
  /-- There is nothing to write. -/
  | settled (nothing : a.width = 0) (steps : Amended a j k.clock (j.steps id) (j.steps id)) :
    Drafts r Sound id a j k (.settled [])
  | pending (t : RequestTrace) (named : t.requestId = id) (dated : t.Dated)
    (steps : Amended a j k.clock (j.steps id) t.steps)
    (taken : j.clock.taken + a.width ≤ k.clock.taken)
    (counted : k.stepCount = j.stepCount + a.width) :
    Drafts r Sound id a j k (.pending t ((a.opening j).map fun s => some s.stepId))

/-- Where a use of the recorder is once it has drafted. -/
structure Drafted (r : Recorder) (Sound : Journal → Prop) (id : RequestId) (a : Recording)
    (j : Journal) (d : Draft) (k : Journal) : Prop where
  sound : Sound k
  held : k.held = j.held
  onward : j.clock.Onward k.clock
  counted : j.stepCount ≤ k.stepCount
  most : k.stepCount ≤ j.stepCount + a.width
  drafts : r.Drafts Sound id a j k d

variable {r : Recorder} {Sound : Journal → Prop} {id : RequestId} {j : Journal}

/-- Steps are appended to what is held. -/
theorem drafted_draftSteps (retains : r.Retains Sound) (sound : Sound j)
    (named : ∀ t ∈ j.held id, t.requestId = id) {a : Recording} (dated : a.Dated)
    (only : a.closes = []) {k : Journal} (same : k.store = j.store)
    (clock : k.clock = { j.clock with taken := j.clock.taken + a.width })
    (count : k.stepCount = j.stepCount + a.width) :
    r.Drafted Sound id a j (r.draftSteps id (a.opening j) k).1 (r.draftSteps id (a.opening j) k).2 := by
  have later : j.clock.Onward k.clock := by
    rw [clock]
    exact ⟨rfl, Nat.le_add_right _ _⟩
  obtain ⟨soundLater, heldLater⟩ := retains.pass sound same later
  obtain ⟨soundLoaded, heldLoaded, found⟩ := retains.load soundLater id
  have onward := (load_touches r id k).onward
  have counted := (load_touches r id k).stepCount
  have taken : j.clock.taken + a.width ≤ (r.load id k).2.clock.taken := by
    have first := onward.taken
    rw [clock] at first
    exact first
  have drafts : r.Drafts Sound id a j (r.load id k).2 (r.draftSteps id (a.opening j) k).1 := by
    unfold draftSteps
    rcases loaded : r.load id k with ⟨outcome, l⟩
    rw [loaded] at found counted taken
    cases outcome with
    | error f => exact .dropped (Or.inr ⟨k, soundLater, Or.inl ⟨id, f, by rw [loaded]⟩⟩)
    | ok t =>
      have equal : t = j.held id := (found t rfl).trans (congrFun heldLater id)
      refine .pending _ ?_ ?_ ?_ taken (counted.trans count)
      · cases t with
        | none => rfl
        | some t => exact named t equal.symm
      · exact RequestTrace.dated_append (equal ▸ retains.dated sound id)
          (Recording.dated_opening dated (retains.known sound))
      · have steps : (t.getD (RequestTrace.empty id)).steps = j.steps id := by
          rw [Journal.steps, ← equal]
          cases t <;> rfl
        rw [RequestTrace.append, steps]
        exact amended_of_append _ only
  rw [snd_draftSteps]
  exact ⟨soundLoaded, heldLoaded.trans heldLater, later.trans onward, by omega, by omega, drafts⟩

/-- What a blank request asks for is dropped. -/
theorem drafted_blank (sound : Sound j) (a : Recording) (blank : id.isBlank = true) :
    r.Drafted Sound id a j (.settled ((a.opening j).map fun _ => none)) j :=
  ⟨sound, rfl, Clock.Onward.refl _, Nat.le_refl _, Nat.le_add_right _ _, .dropped (Or.inl blank)⟩

/-- Where it is nobody's step that is to be closed, there is nothing to do. -/
theorem drafted_nobody (sound : Sound j) {closes : List (Option StepId × Bool)}
    (nobody : closes.all (fun c => c.1.isNone) = true) :
    r.Drafted Sound id (.close closes) j (.settled []) j := by
  have same : Amended (.close closes) j j.clock (j.steps id) (j.steps id) := by
    refine ⟨j.steps id, (List.append_nil _).symm, List.forall₂_same.2 ?_⟩
    intro s _
    exact Step.heeds_of_unnamed (closing?_of_all_none nobody _)
  exact ⟨sound, rfl, Clock.Onward.refl _, Nat.le_refl _, Nat.le_refl _, .settled rfl same⟩

/-- Closing steps of a list that has been read does what was asked for. -/
theorem amended_closeAll {k : Journal} (onward : j.clock.Onward k.clock) {steps : List Step}
    (once : (steps.map Step.stepId).Nodup) (closes : List (Option StepId × Bool)) :
    Amended (.close closes) j (closeAll closes steps k.clock).2.2 steps
      (closeAll closes steps k.clock).1 := by
  refine ⟨_, (List.append_nil _).symm, (heeds_closeAll once closes k.clock).imp ?_⟩
  intro s s' heeded
  exact heeded.widen onward (Clock.Onward.refl _)

/-- Steps are closed among those that are held. -/
theorem drafted_close (retains : r.Retains Sound) (sound : Sound j)
    (named : ∀ t ∈ j.held id, t.requestId = id) (once : ((j.steps id).map Step.stepId).Nodup)
    (closes : List (Option StepId × Bool)) :
    r.Drafted Sound id (.close closes) j (r.draft id (.close closes) j).1
      (r.draft id (.close closes) j).2 := by
  dsimp only [draft]
  split
  · rename_i idle
    cases blank : id.isBlank with
    | true => exact drafted_blank sound (.close closes) blank
    | false => exact drafted_nobody sound (by simpa [blank] using idle)
  · obtain ⟨soundLoaded, heldLoaded, found⟩ := retains.load sound id
    have onward := (load_touches r id j).onward
    have counted := (load_touches r id j).stepCount
    rcases loaded : r.load id j with ⟨outcome, k⟩
    rw [loaded] at soundLoaded heldLoaded found onward counted
    have rest {d : Draft} {clock : Clock} (later : k.clock.Onward clock)
        (drafts : r.Drafts Sound id (.close closes) j { k with clock := clock } d) :
        r.Drafted Sound id (.close closes) j d { k with clock := clock } := by
      obtain ⟨soundLater, heldLater⟩ :=
        retains.pass (k := { k with clock := clock }) soundLoaded rfl later
      exact ⟨soundLater, heldLater.trans heldLoaded, onward.trans later, Nat.le_of_eq counted.symm,
        Nat.le_of_eq counted, drafts⟩
    cases outcome with
    | error f =>
      exact rest (Clock.Onward.refl _)
        (.dropped (Or.inr ⟨j, sound, Or.inl ⟨id, f, by rw [loaded]⟩⟩))
    | ok t =>
      have equal : j.held id = t := (found t rfl).symm
      cases t with
      | none =>
        have empty : j.steps id = [] := Journal.steps_of_none equal
        refine rest (Clock.Onward.refl _) (.settled rfl ?_)
        rw [empty]
        exact ⟨[], rfl, List.Forall₂.nil⟩
      | some t =>
        have steps : j.steps id = t.steps := Journal.steps_of_held equal
        have later := onward_closeAll closes t.steps k.clock
        have amended : Amended (.close closes) j (closeAll closes t.steps k.clock).2.2 (j.steps id)
            (closeAll closes t.steps k.clock).1 := by
          rw [steps]
          exact amended_closeAll onward (steps ▸ once) closes
        dsimp only
        rcases closed : closeAll closes t.steps k.clock with ⟨after, changed, clock⟩
        rw [closed] at later amended
        cases changed with
        | true =>
          have dated :=
            dated_closeAll closes (retains.known soundLoaded) (retains.dated sound id t equal)
          rw [closed] at dated
          exact rest later (.pending { t with steps := after } (named t equal) dated amended
            (onward.trans later).taken counted)
        | false =>
          have nothing : (closeAll closes t.steps k.clock).2.1 = false := by rw [closed]
          have unchanged := closeAll_of_unchanged nothing
          rw [closed] at unchanged
          obtain ⟨rfl, -, rfl⟩ := unchanged
          exact rest later (.settled rfl (steps ▸ amended))

/-- Steps are opened, whatever the identifiers of those that are held. -/
theorem drafted_start (retains : r.Retains Sound) (sound : Sound j)
    (named : ∀ t ∈ j.held id, t.requestId = id) (participants : List String) :
    r.Drafted Sound id (.start participants) j (r.draft id (.start participants) j).1
      (r.draft id (.start participants) j).2 := by
  have opened := drafted_draftSteps retains sound named (a := .start participants) trivial rfl
    (k := (j.openAll participants).2)
  rw [Journal.snd_openAll] at opened
  dsimp only [draft]
  split
  · rename_i blank
    have long : participants.map (fun _ => (none : Option StepId)) =
        (j.openAll participants).1.map fun _ => none := by
      rw [List.map_const', List.map_const', Journal.length_openAll]
    rw [long]
    exact drafted_blank sound (.start participants) blank
  · rw [Journal.snd_openAll]
    exact opened rfl rfl rfl

/-- Reading the trace changes nothing, and what is drafted is all that was asked for. -/
theorem draft_spec (retains : r.Retains Sound) (sound : Sound j)
    (named : ∀ t ∈ j.held id, t.requestId = id) (once : ((j.steps id).map Step.stepId).Nodup)
    {a : Recording} (dated : a.Dated) :
    r.Drafted Sound id a j (r.draft id a j).1 (r.draft id a j).2 := by
  cases a with
  | start participants => exact drafted_start retains sound named participants
  | finished participant startTime success =>
    dsimp only [draft]
    split
    · rename_i blank
      exact drafted_blank sound (.finished participant startTime success) blank
    · exact drafted_draftSteps retains sound named (a := .finished participant startTime success)
        dated rfl (k := { j with clock := j.clock.tick, stepCount := j.stepCount + 1 }) rfl rfl rfl
  | close closes => exact drafted_close retains sound named once closes

/-- What was drafted is written as a whole or not at all. -/
theorem commit_spec (retains : r.Retains Sound) (named : ∀ t ∈ j.held id, t.requestId = id)
    {a : Recording} {d : Draft} {k : Journal} (drafted : r.Drafted Sound id a j d k) :
    r.Performed Sound id a j (r.commit d k).1 (r.commit d k).2 := by
  obtain ⟨sound, held, onward, counted, most, drafts⟩ := drafted
  have unchanged (id' : RequestId) : k.held id' = j.held id' := congrFun held id'
  cases drafts with
  | dropped reason =>
    exact ⟨sound, onward, counted, most, fun _ _ => unchanged _,
      Or.inl ⟨unchanged id, rfl, reason⟩⟩
  | settled nothing steps =>
    have nobody : a.opening j = [] := List.eq_nil_of_length_eq_zero ((a.length_opening j).trans nothing)
    have taken : j.clock.taken + a.width ≤ k.clock.taken := by
      rw [nothing]
      exact onward.taken
    have count : k.stepCount = j.stepCount + a.width := by omega
    refine ⟨sound, onward, counted, most, fun _ _ => unchanged _, Or.inr ⟨?_, ?_, ?_, taken, count⟩⟩
    · intro t found
      exact named t ((unchanged id).symm.trans found)
    · dsimp only [commit]
      rw [Journal.steps_congr (unchanged id)]
      exact steps
    · rw [nobody]
      rfl
  | pending t own dated steps taken count =>
    obtain ⟨soundSaved, heldSaved⟩ := retains.save sound t dated
    have later := (save_touches r t k).onward
    have countSaved := (save_touches r t k).stepCount
    dsimp only [commit]
    rcases saved : r.save t k with ⟨outcome, l⟩
    rw [saved] at soundSaved heldSaved later countSaved
    cases outcome with
    | error f =>
      have kept (id' : RequestId) : l.held id' = j.held id' :=
        (congrFun heldSaved id').trans (unchanged id')
      refine ⟨soundSaved, onward.trans later, countSaved ▸ counted, countSaved ▸ most,
        fun _ _ => kept _, Or.inl ⟨kept id, ?_, Or.inr ⟨k, sound, Or.inr ⟨t, f, dated, by rw [saved]⟩⟩⟩⟩
      rw [List.map_map]
      rfl
    | ok done =>
      have written : l.held id = some t := by
        rw [heldSaved, own]
        exact Function.update_self _ _ _
      have apart (other : RequestId) (different : other ≠ id) : l.held other = j.held other := by
        rw [heldSaved, own]
        exact (Function.update_of_ne different _ _).trans (unchanged other)
      refine ⟨soundSaved, onward.trans later, countSaved ▸ counted, countSaved ▸ most, apart,
        Or.inr ⟨?_, ?_, rfl, Nat.le_trans taken later.taken, countSaved.trans count⟩⟩
      · intro t' found
        rw [written] at found
        cases found
        exact own
      · rw [Journal.steps_of_held written]
        exact steps.later later

/-- A use of the recorder does all that it was asked for, or nothing. -/
theorem perform_spec (retains : r.Retains Sound) (sound : Sound j)
    (named : ∀ t ∈ j.held id, t.requestId = id) (once : ((j.steps id).map Step.stepId).Nodup)
    {a : Recording} (dated : a.Dated) :
    r.Performed Sound id a j (r.perform id a j).1 (r.perform id a j).2 :=
  commit_spec retains named (draft_spec retains sound named once dated)

theorem snd_trace (r : Recorder) (id : RequestId) (j : Journal) :
    (r.trace id j).2 = (r.load id j).2 := by
  unfold trace
  rcases r.load id j with ⟨_ | _ | t, k⟩ <;> rfl

theorem Retains.load_eq (retains : r.Retains Sound) (healthy : ¬ r.Falters Sound) (sound : Sound j)
    (id : RequestId) : (r.load id j).1 = .ok (j.held id) := by
  obtain ⟨-, -, found⟩ := retains.load sound id
  cases loaded : (r.load id j).1 with
  | error f => exact absurd ⟨j, sound, Or.inl ⟨id, f, loaded⟩⟩ healthy
  | ok t => rw [found t loaded]

/-- On a healthy store what is read is what is held, in order of the start. -/
theorem trace_of_healthy (retains : r.Retains Sound) (healthy : ¬ r.Falters Sound)
    (sound : Sound j) (id : RequestId) :
    (r.trace id j).1 = ((j.held id).map RequestTrace.sorted).getD (RequestTrace.empty id) := by
  have loaded := retains.load_eq healthy sound id
  unfold trace
  rcases equal : r.load id j with ⟨outcome, k⟩
  rw [equal] at loaded
  subst loaded
  cases j.held id <;> rfl

/-- A trace is read as its steps are stored. -/
theorem trace_eq_sorted (retains : r.Retains Sound) (healthy : ¬ r.Falters Sound) (sound : Sound j)
    (named : ∀ t ∈ j.held id, t.requestId = id) :
    (r.trace id j).1 = RequestTrace.sorted ⟨id, j.steps id⟩ := by
  rw [trace_of_healthy retains healthy sound]
  cases held : j.held id with
  | none =>
    rw [Journal.steps_of_none held]
    rfl
  | some t =>
    rw [Journal.steps_of_held held, ← named t held]
    rfl

end Recorder

/-- What holds of the steps of a request at all times. -/
structure Journal.Orderly (j : Journal) (id : RequestId) : Prop where
  named : ∀ t ∈ j.held id, t.requestId = id
  once : ((j.steps id).map Step.stepId).Nodup
  older : ∀ x ∈ (j.steps id).map Step.stepId, x.bits.toNat < j.stepCount
  proper : ∀ s ∈ j.steps id, s.Proper j.clock.reading

namespace Journal

theorem orderly_of_none {j : Journal} {id : RequestId} (nothing : j.held id = none) :
    j.Orderly id := by
  have empty := steps_of_none nothing
  refine ⟨?_, ?_, ?_, ?_⟩
  · simp [nothing]
  · simp [empty]
  · simp [empty]
  · simp [empty]

/-- What is left alone stays in order. -/
theorem Orderly.carry {j k : Journal} {id : RequestId} (orderly : j.Orderly id)
    (same : k.held id = j.held id) (counted : j.stepCount ≤ k.stepCount)
    (forward : j.clock.Forward) (onward : j.clock.Onward k.clock) : k.Orderly id := by
  have steps := steps_congr same
  refine ⟨same ▸ orderly.named, steps ▸ orderly.once, ?_, ?_⟩
  · rw [steps]
    intro x member
    exact Nat.lt_of_lt_of_le (orderly.older x member) counted
  · rw [steps]
    intro s member
    exact (orderly.proper s member).mono (forward.reading_le onward)

end Journal

namespace Recorder

variable {r : Recorder} {Sound : Journal → Prop} {id : RequestId} {a : Recording} {j j' : Journal}
  {answer : List (Option StepId)}

theorem Amended.stepIds {clock : Clock} {found steps : List Step}
    (amended : Amended a j clock found steps) :
    steps.map Step.stepId = found.map Step.stepId ++ j.freshIds a.width := by
  obtain ⟨kept, rfl, heeds⟩ := amended
  rw [List.map_append, map_eq_of_forall₂ heeds fun _ _ heeded => heeded.stepId.symm,
    a.stepIds_opening]

theorem Done.once (done : Done id a j answer j') (once : ((j.steps id).map Step.stepId).Nodup)
    (older : ∀ x ∈ (j.steps id).map Step.stepId, x.bits.toNat < j.stepCount)
    (few : j.stepCount + a.width ≤ twoTo 128) : ((j'.steps id).map Step.stepId).Nodup := by
  rw [done.steps.stepIds, List.nodup_append]
  refine ⟨once, freshIds_nodup few, ?_⟩
  intro x old y new same
  have early := older x old
  have late := (mem_freshIds few new).1
  subst same
  omega

theorem Done.older (done : Done id a j answer j')
    (older : ∀ x ∈ (j.steps id).map Step.stepId, x.bits.toNat < j.stepCount)
    (few : j.stepCount + a.width ≤ twoTo 128) :
    ∀ x ∈ (j'.steps id).map Step.stepId, x.bits.toNat < j'.stepCount := by
  rw [done.steps.stepIds, done.counted]
  intro x member
  rcases List.mem_append.1 member with old | new
  · exact Nat.lt_of_lt_of_le (older x old) (Nat.le_add_right _ _)
  · exact (mem_freshIds few new).2

theorem Done.orderly (done : Done id a j answer j') (onward : j.clock.Onward j'.clock)
    (orderly : j.Orderly id) (forward : j.clock.Forward)
    (few : j.stepCount + a.width ≤ twoTo 128) : j'.Orderly id := by
  refine ⟨done.named, done.once orderly.once orderly.older few, done.older orderly.older few, ?_⟩
  obtain ⟨kept, steps, heeds⟩ := done.steps
  rw [steps]
  intro s member
  rcases List.mem_append.1 member with old | new
  · obtain ⟨s₀, found, heeded⟩ := exists_of_forall₂ heeds old
    exact heeded.proper forward onward (orderly.proper s₀ found)
  · rw [Clock.reading, onward.readings]
    exact a.proper_opening forward done.taken s new

theorem Performed.orderly (performed : r.Performed Sound id a j answer j') (orderly : j.Orderly id)
    (forward : j.clock.Forward) (few : j'.stepCount ≤ twoTo 128) : j'.Orderly id := by
  rcases performed.outcome with dropped | done
  · exact orderly.carry dropped.held performed.counted forward performed.onward
  · exact done.orderly performed.onward orderly forward (done.counted ▸ few)

end Recorder

end RollCall
