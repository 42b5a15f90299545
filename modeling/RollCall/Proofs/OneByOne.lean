import RollCall.Proofs.Retention

set_option autoImplicit false

/-!
Steps in batches and steps one at a time. While the wall clock stands still, a healthy store holds
the same traces after one write of many steps as after many writes of one step each.
-/
namespace RollCall

namespace Clock

/-- From now on the wall clock shows the same instant. -/
def StandsStill (c : Clock) : Prop := ∀ n, c.taken ≤ n → c.readings n = c.reading

variable {c d : Clock}

theorem StandsStill.reading_eq (still : c.StandsStill) (onward : c.Onward d) :
    d.reading = c.reading := by
  rw [reading, onward.readings]
  exact still _ onward.taken

theorem StandsStill.onward (still : c.StandsStill) (onward : c.Onward d) : d.StandsStill := by
  intro n late
  rw [still.reading_eq onward, onward.readings]
  exact still n (Nat.le_trans onward.taken late)

end Clock

/-- Steps that all start at one instant, with identifiers counted up from a number. -/
def Step.startedFrom (now : Timestamp) : Nat → List String → List Step
  | _, [] => []
  | n, participant :: rest =>
    started (Journal.stepId n) participant now :: startedFrom now (n + 1) rest

theorem Journal.openAll_of_still (participants : List String) {j : Journal}
    (still : j.clock.StandsStill) :
    (j.openAll participants).1 = Step.startedFrom j.clock.reading j.stepCount participants := by
  induction participants generalizing j with
  | nil => rfl
  | cons participant rest ih =>
    have onward := j.clock.onward_tick
    have later := ih (j := { j with clock := j.clock.tick, stepCount := j.stepCount + 1 })
      (still.onward onward)
    rw [still.reading_eq onward] at later
    rw [openAll, Step.startedFrom, ← later]

namespace RequestTrace

def closeNamed (now : Timestamp) (steps : List Step) (c : Option StepId × Bool) : List Step :=
  match c.1 with
  | none => steps
  | some id => closeStep steps id now c.2

/-- Closes steps one after another, all at one instant. -/
def closeEach (now : Timestamp) (closes : List (Option StepId × Bool)) (steps : List Step) :
    List Step :=
  closes.foldl (closeNamed now) steps

theorem closeEach_of_unnamed (now : Timestamp) {closes : List (Option StepId × Bool)}
    (nobody : closes.all (fun c => c.1.isNone) = true) (steps : List Step) :
    closeEach now closes steps = steps := by
  induction closes with
  | nil => rfl
  | cons c rest ih =>
    obtain ⟨unnamed, others⟩ := Bool.and_eq_true_iff.1 (List.all_cons.symm.trans nobody)
    obtain ⟨_ | id, success⟩ := c
    · exact ih others
    · cases unnamed

/-- No step is closed where there is none. -/
theorem closeEach_nil (now : Timestamp) (closes : List (Option StepId × Bool)) :
    closeEach now closes [] = [] := by
  induction closes with
  | nil => rfl
  | cons c rest ih => obtain ⟨_ | id, success⟩ := c <;> exact ih

end RequestTrace

namespace Recorder

open RequestTrace

theorem closeAll_of_still (closes : List (Option StepId × Bool)) (steps : List Step) {clock : Clock}
    (still : clock.StandsStill) :
    (closeAll closes steps clock).1 = closeEach clock.reading closes steps := by
  induction closes generalizing steps clock with
  | nil => rfl
  | cons c rest ih =>
    obtain ⟨_ | id, success⟩ := c
    · exact ih steps still
    · rw [closeAll]
      dsimp only
      generalize (steps.find? fun s => s.stepId == id).any Step.isOpen = was
      generalize advanced : (if was then clock.tick else clock) = later
      have onward : clock.Onward later := by
        rw [← advanced]
        split
        · exact clock.onward_tick
        · exact Clock.Onward.refl clock
      rw [ih _ (still.onward onward), still.reading_eq onward]
      rfl

variable {r : Recorder} {Sound : Journal → Prop} {id : RequestId} {j k l : Journal}

theorem Retains.save_eq (retains : r.Retains Sound) (healthy : ¬ r.Falters Sound) (sound : Sound j)
    {t : RequestTrace} (dated : t.Dated) : (r.save t j).1 = .ok () ∧
      (r.save t j).2.held = Function.update j.held t.requestId (some t) := by
  obtain ⟨-, held⟩ := retains.save sound t dated
  cases saved : (r.save t j).1 with
  | error f => exact absurd ⟨j, sound, Or.inr ⟨t, f, dated, saved⟩⟩ healthy
  | ok done =>
    rw [saved] at held
    exact ⟨rfl, held⟩

/-- From one journal to another the steps of one request are replaced; nothing else is. -/
structure Replaces (Sound : Journal → Prop) (id : RequestId) (steps : List Step) (j k : Journal) :
    Prop where
  sound : Sound k
  onward : j.clock.Onward k.clock
  named : ∀ t ∈ k.held id, t.requestId = id
  steps : k.steps id = steps
  others : ∀ other, other ≠ id → k.held other = j.held other

namespace Replaces

variable {steps later : List Step}

theorem refl (sound : Sound j) (named : ∀ t ∈ j.held id, t.requestId = id) :
    Replaces Sound id (j.steps id) j j :=
  ⟨sound, Clock.Onward.refl _, named, rfl, fun _ _ => rfl⟩

theorem trans (first : Replaces Sound id steps j k) (second : Replaces Sound id later k l) :
    Replaces Sound id later j l :=
  ⟨second.sound, first.onward.trans second.onward, second.named, second.steps,
    fun other different => (second.others other different).trans (first.others other different)⟩

/-- While time passes the traces stay as they are. -/
theorem pass (replaces : Replaces Sound id steps j k) (retains : r.Retains Sound)
    (store : l.store = k.store) (onward : k.clock.Onward l.clock) :
    Replaces Sound id steps j l := by
  obtain ⟨sound, held⟩ := retains.pass replaces.sound store onward
  refine ⟨sound, replaces.onward.trans onward, held ▸ replaces.named, ?_, ?_⟩
  · rw [Journal.steps_congr (congrFun held id), replaces.steps]
  · intro other different
    rw [held, replaces.others other different]

/-- A trace that is written takes the place of the one before. -/
theorem write (replaces : Replaces Sound id steps j k) (retains : r.Retains Sound)
    (healthy : ¬ r.Falters Sound) {t : RequestTrace} (dated : t.Dated) (own : t.requestId = id) :
    Replaces Sound id t.steps j (r.save t k).2 := by
  obtain ⟨-, held⟩ := retains.save_eq healthy replaces.sound dated
  have written : (r.save t k).2.held id = some t := by
    rw [held, own, Function.update_self]
  refine ⟨(retains.save replaces.sound t dated).1,
    replaces.onward.trans (save_touches r t k).onward, ?_, Journal.steps_of_held written, ?_⟩
  · intro t' found
    rw [written] at found
    cases found
    exact own
  · intro other different
    rw [held, own, Function.update_of_ne different, replaces.others other different]

/-- Whoever has put the same steps in their place leaves the same traces. -/
theorem trace_congr (retains : r.Retains Sound) (healthy : ¬ r.Falters Sound)
    (first : Replaces Sound id steps j k) (second : Replaces Sound id steps j l)
    (other : RequestId) : (r.trace other k).1 = (r.trace other l).1 := by
  by_cases own : other = id
  · subst own
    rw [trace_eq_sorted retains healthy first.sound first.named,
      trace_eq_sorted retains healthy second.sound second.named, first.steps, second.steps]
  · have same : k.held other = l.held other :=
      (first.others other own).trans (second.others other own).symm
    rw [trace_of_healthy retains healthy first.sound, trace_of_healthy retains healthy second.sound,
      same]

end Replaces

/-- A batch that is opened comes after what is held. -/
theorem startSteps_replaces (retains : r.Retains Sound) (healthy : ¬ r.Falters Sound)
    (sound : Sound j) (named : ∀ t ∈ j.held id, t.requestId = id) (known : id.isBlank = false)
    (still : j.clock.StandsStill) (participants : List String) :
    Replaces Sound id
        (j.steps id ++ Step.startedFrom j.clock.reading j.stepCount participants) j
        (r.startSteps id participants j).2 ∧
      (r.startSteps id participants j).1 =
        (Step.startedFrom j.clock.reading j.stepCount participants).map (fun s => some s.stepId) ∧
      (r.startSteps id participants j).2.stepCount = j.stepCount + participants.length := by
  have performed : r.Performed Sound id (.start participants) j (r.startSteps id participants j).1
      (r.startSteps id participants j).2 :=
    commit_spec retains named (drafted_start retains sound named participants)
  have opening := Journal.openAll_of_still participants still
  have done := performed.done healthy known
  rw [← opening]
  exact ⟨⟨performed.sound, performed.onward, done.named, done.steps.eq_append rfl,
    performed.others⟩, done.answer, done.counted⟩

/-- A batch is closed among what is held. -/
theorem endSteps_replaces (retains : r.Retains Sound) (healthy : ¬ r.Falters Sound)
    (sound : Sound j) (named : ∀ t ∈ j.held id, t.requestId = id) (known : id.isBlank = false)
    (still : j.clock.StandsStill) (closes : List (Option StepId × Bool)) :
    Replaces Sound id (closeEach j.clock.reading closes (j.steps id)) j
      (r.endSteps id closes j) := by
  dsimp only [endSteps, perform, draft]
  by_cases idle : closes.all (fun c => c.1.isNone) = true
  · rw [if_pos (by rw [idle, Bool.or_true]), closeEach_of_unnamed _ idle]
    exact .refl sound named
  · rw [if_neg (by simpa [known] using idle)]
    obtain ⟨soundLoaded, heldLoaded, -⟩ := retains.load sound id
    have loaded := retains.load_eq healthy sound id
    have onward := (load_touches r id j).onward
    rcases equal : r.load id j with ⟨outcome, k⟩
    rw [equal] at soundLoaded heldLoaded loaded onward
    subst loaded
    have read : Replaces Sound id (j.steps id) j k :=
      ⟨soundLoaded, onward, heldLoaded ▸ named, Journal.steps_congr (congrFun heldLoaded id),
        fun other _ => congrFun heldLoaded other⟩
    cases held : j.held id with
    | none =>
      rw [Journal.steps_of_none held, closeEach_nil, ← Journal.steps_of_none held]
      exact read
    | some t =>
      have closed := closeAll_of_still closes t.steps (still.onward onward)
      have unchanged : (closeAll closes t.steps k.clock).2.1 = false →
          closeAll closes t.steps k.clock = (t.steps, false, k.clock) := closeAll_of_unchanged
      have later := onward_closeAll closes t.steps k.clock
      have dated := dated_closeAll closes (retains.known soundLoaded) (retains.dated sound id t held)
      rw [still.reading_eq onward] at closed
      rw [Journal.steps_of_held held, ← closed]
      dsimp only
      rcases all : closeAll closes t.steps k.clock with ⟨steps, changed, clock⟩
      rw [all] at unchanged later dated
      cases changed with
      | false =>
        obtain ⟨rfl, -, -⟩ := unchanged rfl
        rw [← Journal.steps_of_held held]
        exact read
      | true =>
        have own : t.requestId = id := named t held
        have passed : Replaces Sound id (j.steps id) j { k with clock := clock } :=
          read.pass retains rfl later
        have written := passed.write retains healthy (t := { t with steps := steps }) dated own
        rw [← snd_commit_pending r _ []] at written
        exact written

/-- Opens steps one after another, each with a write of its own. -/
def startEach (r : Recorder) (id : RequestId) : List String → Journal → List (Option StepId) × Journal
  | [], j => ([], j)
  | participant :: rest, j =>
    let (step, j) := r.startStep id participant j
    let (steps, j) := r.startEach id rest j
    (step :: steps, j)

def endEach (r : Recorder) (id : RequestId) : List (Option StepId × Bool) → Journal → Journal
  | [], j => j
  | (step, success) :: rest, j => r.endEach id rest (r.endStep id step success j)

theorem startEach_of_blank (blank : id.isBlank = true) (participants : List String) (j : Journal) :
    r.startEach id participants j = (participants.map fun _ => none, j) := by
  induction participants with
  | nil => rfl
  | cons participant rest ih =>
    rw [startEach, startStep, startSteps_of_blank blank]
    dsimp only
    rw [ih]
    rfl

theorem endEach_of_blank (blank : id.isBlank = true) (closes : List (Option StepId × Bool))
    (j : Journal) : r.endEach id closes j = j := by
  induction closes with
  | nil => rfl
  | cons c rest ih => rw [endEach, endStep, endSteps_of_blank blank, ih]

/-- Each step that is opened comes after those that were opened before it. -/
theorem startEach_replaces (retains : r.Retains Sound) (healthy : ¬ r.Falters Sound)
    (sound : Sound j) (named : ∀ t ∈ j.held id, t.requestId = id) (known : id.isBlank = false)
    (still : j.clock.StandsStill) (participants : List String) :
    Replaces Sound id
        (j.steps id ++ Step.startedFrom j.clock.reading j.stepCount participants) j
        (r.startEach id participants j).2 ∧
      (r.startEach id participants j).1 =
        (Step.startedFrom j.clock.reading j.stepCount participants).map (fun s => some s.stepId) ∧
      (r.startEach id participants j).2.stepCount = j.stepCount + participants.length := by
  induction participants generalizing j with
  | nil =>
    refine ⟨?_, rfl, rfl⟩
    rw [Step.startedFrom, List.append_nil]
    exact .refl sound named
  | cons participant rest ih =>
    obtain ⟨first, answer, counted⟩ :=
      startSteps_replaces retains healthy sound named known still [participant]
    rw [startEach, startStep]
    rcases opened : r.startSteps id [participant] j with ⟨step, k⟩
    rw [opened] at first answer counted
    dsimp only at first answer counted ⊢
    subst answer
    obtain ⟨others, answers, countedAll⟩ :=
      ih first.sound first.named (still.onward first.onward)
    rw [first.steps, still.reading_eq first.onward, counted] at others
    rw [still.reading_eq first.onward, counted] at answers
    refine ⟨?_, ?_, ?_⟩
    · rw [List.append_assoc] at others
      exact first.trans others
    · rw [answers]
      rfl
    · rw [countedAll, counted, Nat.add_assoc, List.length_singleton, List.length_cons,
        Nat.add_comm 1]

/-- Each close finds what those before it have left. -/
theorem endEach_replaces (retains : r.Retains Sound) (healthy : ¬ r.Falters Sound)
    (sound : Sound j) (named : ∀ t ∈ j.held id, t.requestId = id) (known : id.isBlank = false)
    (still : j.clock.StandsStill) (closes : List (Option StepId × Bool)) :
    Replaces Sound id (closeEach j.clock.reading closes (j.steps id)) j
      (r.endEach id closes j) := by
  induction closes generalizing j with
  | nil => exact .refl sound named
  | cons c rest ih =>
    obtain ⟨step, success⟩ := c
    have first := endSteps_replaces retains healthy sound named known still [(step, success)]
    have others := ih first.sound first.named (still.onward first.onward)
    rw [first.steps, still.reading_eq first.onward] at others
    exact first.trans others

/--
Batches on a healthy store while the wall clock stands still. Whatever the trace of a request holds,
opening steps in one batch gives out the identifiers that opening them one at a time does, and
closing steps in one batch, of whomever and however often, closes the same ones; every trace is read
the same afterwards.
-/
theorem batches_are_one_by_one (retains : r.Retains Sound) (healthy : ¬ r.Falters Sound)
    (sound : Sound j) (named : ∀ t ∈ j.held id, t.requestId = id) (still : j.clock.StandsStill) :
    (∀ participants,
      (r.startSteps id participants j).1 = (r.startEach id participants j).1 ∧
        (r.startSteps id participants j).2.stepCount = (r.startEach id participants j).2.stepCount ∧
        ∀ other, (r.trace other (r.startSteps id participants j).2).1 =
          (r.trace other (r.startEach id participants j).2).1) ∧
    ∀ closes other, (r.trace other (r.endSteps id closes j)).1 =
      (r.trace other (r.endEach id closes j)).1 := by
  cases known : id.isBlank with
  | true =>
    refine ⟨?_, ?_⟩
    · intro participants
      rw [startSteps_of_blank known, startEach_of_blank known]
      exact ⟨rfl, rfl, fun _ => rfl⟩
    · intro closes other
      rw [endSteps_of_blank known, endEach_of_blank known]
  | false =>
    refine ⟨?_, ?_⟩
    · intro participants
      obtain ⟨batch, answer, counted⟩ :=
        startSteps_replaces retains healthy sound named known still participants
      obtain ⟨each, answers, countedEach⟩ :=
        startEach_replaces retains healthy sound named known still participants
      exact ⟨answer.trans answers.symm, counted.trans countedEach.symm,
        batch.trace_congr retains healthy each⟩
    · intro closes other
      have batch := endSteps_replaces retains healthy sound named known still closes
      have each := endEach_replaces retains healthy sound named known still closes
      exact batch.trace_congr retains healthy each other

def halfClosed (w : World) : Journal :=
  let r := Coordinator.rehearsal.recorder
  r.endSteps ⟨"r"⟩ [(some (Journal.stepId 0), false)] (r.startSteps ⟨"r"⟩ ["desk", "a"] w.journal).2

def closesRehearsal : List (Option StepId × Bool) :=
  [(none, true), (some (Journal.stepId 9), true), (some (Journal.stepId 0), true),
    (some (Journal.stepId 1), true), (some (Journal.stepId 1), false)]

/-- Two steps of one name are opened and a batch is closed, over each kind of store. -/
theorem batches_are_one_by_one_rehearsal :
    let r := Coordinator.rehearsal.recorder
    (∀ w ∈ [World.rehearsal [.stall 3], World.durableRehearsal [.stall 3]],
      (r.startSteps ⟨"r"⟩ ["b", "b"] (halfClosed w)).1 =
          (r.startEach ⟨"r"⟩ ["b", "b"] (halfClosed w)).1 ∧
        (r.trace ⟨"r"⟩ (r.endSteps ⟨"r"⟩ closesRehearsal (halfClosed w))).1 =
          (r.trace ⟨"r"⟩ (r.endEach ⟨"r"⟩ closesRehearsal (halfClosed w))).1) ∧
      (r.trace ⟨"r"⟩ (r.endEach ⟨"r"⟩ closesRehearsal
        (halfClosed (World.rehearsal [.stall 3])))).1.steps.map Step.success =
          [some false, some true] := by
  intro r
  have retains := retains_healthy r
  have healthy := not_falters_healthy r
  have alike (w : World) (sound : r.Healthy w.journal) (empty : w.journal.held ⟨"r"⟩ = none)
      (still : w.journal.clock.StandsStill) :
      (r.startSteps ⟨"r"⟩ ["b", "b"] (halfClosed w)).1 =
          (r.startEach ⟨"r"⟩ ["b", "b"] (halfClosed w)).1 ∧
        (r.trace ⟨"r"⟩ (r.endSteps ⟨"r"⟩ closesRehearsal (halfClosed w))).1 =
          (r.trace ⟨"r"⟩ (r.endEach ⟨"r"⟩ closesRehearsal (halfClosed w))).1 := by
    have named : ∀ t ∈ w.journal.held ⟨"r"⟩, t.requestId = ⟨"r"⟩ := by simp [empty]
    obtain ⟨opened, -, -⟩ := startSteps_replaces retains healthy sound named (by decide) still
      ["desk", "a"]
    have closed := endSteps_replaces retains healthy opened.sound opened.named (by decide)
      (still.onward opened.onward) [(some (Journal.stepId 0), false)]
    obtain ⟨starts, ends⟩ := batches_are_one_by_one retains healthy closed.sound closed.named
      (still.onward (opened.onward.trans closed.onward))
    exact ⟨(starts ["b", "b"]).1, ends closesRehearsal _⟩
  refine ⟨fun w member => ?_, by decide⟩
  rcases List.mem_pair.1 member with rfl | rfl
  · exact alike _ (World.healthy_rehearsal (by decide)) (World.held_rehearsal _ _) fun _ _ => rfl
  · exact alike _ (World.healthy_durableRehearsal (by decide)) (World.held_durableRehearsal _ _)
      fun _ _ => rfl

end Recorder

end RollCall
