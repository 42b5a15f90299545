import RollCall.Proofs.Retention

set_option autoImplicit false

/-!
A recorder over time. However its calls are mixed and whichever operations of the store fail, what
is stored of a request only grows at its end, and of what is there already only open steps change,
once, when they are closed.
-/
namespace RollCall

section Pairs

variable {α : Type} {R : α → α → Prop}

theorem forall₂_trans (trans : ∀ a b c, R a b → R b c → R a c) {l m n : List α}
    (first : List.Forall₂ R l m) (second : List.Forall₂ R m n) : List.Forall₂ R l n := by
  induction first generalizing n with
  | nil => exact second
  | cons head _ ih =>
    cases second with
    | cons head' rest => exact List.Forall₂.cons (trans _ _ _ head head') (ih rest)

end Pairs

/-- A step and what it is later: it may have been closed, and once closed it stays as it is. -/
structure Step.Becomes (s s' : Step) : Prop where
  stepId : s'.stepId = s.stepId
  participant : s'.participant = s.participant
  startTime : s'.startTime = s.startTime
  fixed : s.isOpen = false → s' = s

namespace Step

variable {s s' s'' : Step}

theorem Becomes.refl (s : Step) : s.Becomes s := ⟨rfl, rfl, rfl, fun _ => rfl⟩

theorem Becomes.trans (first : s.Becomes s') (second : s'.Becomes s'') : s.Becomes s'' := by
  refine ⟨second.stepId.trans first.stepId, second.participant.trans first.participant,
    second.startTime.trans first.startTime, ?_⟩
  intro closed
  have same := first.fixed closed
  rw [second.fixed (same ▸ closed), same]

theorem Heeds.becomes {closes : List (Option StepId × Bool)} {c d : Clock}
    (heeds : s.Heeds closes c d s') : s.Becomes s' := by
  rcases heeds.closed_or_eq with rfl | ⟨n, success, -, -, -, rfl⟩
  · exact Becomes.refl _
  · exact ⟨stepId_close _ _ _, participant_close _ _ _, startTime_close _ _ _,
      fun closed => close_of_closed closed _ _⟩

end Step

def Extends (found steps : List Step) : Prop :=
  ∃ kept added, steps = kept ++ added ∧ List.Forall₂ Step.Becomes found kept

theorem Extends.refl (steps : List Step) : Extends steps steps :=
  ⟨steps, [], (List.append_nil _).symm, List.forall₂_same.2 fun s _ => Step.Becomes.refl s⟩

theorem Extends.trans {a b c : List Step} (first : Extends a b) (second : Extends b c) :
    Extends a c := by
  obtain ⟨kept, added, rfl, becomes⟩ := first
  obtain ⟨keptLater, addedLater, rfl, becomesLater⟩ := second
  obtain ⟨before, after, rfl, start, -⟩ := split_of_forall₂_append becomesLater
  refine ⟨before, after ++ addedLater, List.append_assoc _ _ _, ?_⟩
  exact forall₂_trans (R := Step.Becomes) (fun _ _ _ => Step.Becomes.trans) becomes start

/-- The steps of all requests are in order, and no two requests share an identifier. -/
structure Journal.AllOrderly (j : Journal) : Prop where
  each : ∀ id, j.Orderly id
  apart : ∀ id other x, x ∈ (j.steps id).map Step.stepId → x ∈ (j.steps other).map Step.stepId →
    id = other

inductive Recorder.Use where
  | start (participants : List String)
  | record (participant : String) (startTime : Timestamp) (success : Bool)
  | close (closes : List (Option StepId × Bool))
  /-- The trace is looked at. -/
  | look

namespace Recorder

/-- What a call asks to be recorded; a look at the trace asks for nothing. -/
def Use.recording : Use → Recording
  | .start participants => .start participants
  | .record participant startTime success => .finished participant startTime success
  | .close closes => .close closes
  | .look => .close []

def Use.Dated (u : Use) : Prop := u.recording.Dated

def use (r : Recorder) (id : RequestId) (u : Use) (j : Journal) : List (Option StepId) × Journal :=
  match u with
  | .start participants => r.startSteps id participants j
  | .record participant startTime success =>
    let (step, j) := r.recordStep id participant startTime success j
    ([step], j)
  | .close closes => ([], r.endSteps id closes j)
  | .look => ([], (r.trace id j).2)

def useAll (r : Recorder) : List (RequestId × Use) → Journal → Journal
  | [], j => j
  | (id, u) :: rest, j => r.useAll rest (r.use id u j).2

def useWidth : List (RequestId × Use) → Nat
  | [] => 0
  | (_, u) :: rest => u.recording.width + useWidth rest

variable {r : Recorder} {Sound : Journal → Prop} {id : RequestId} {a : Recording} {j j' : Journal}
  {answer : List (Option StepId)}

theorem Amended.extends {clock : Clock} {found steps : List Step}
    (amended : Amended a j clock found steps) : Extends found steps := by
  obtain ⟨kept, rfl, heeds⟩ := amended
  exact ⟨kept, a.opening j, rfl, heeds.imp fun _ _ heeded => heeded.becomes⟩

theorem Performed.extends (performed : r.Performed Sound id a j answer j') (other : RequestId) :
    Extends (j.steps other) (j'.steps other) := by
  by_cases own : other = id
  · subst own
    rcases performed.outcome with dropped | done
    · rw [Journal.steps_congr dropped.held]
      exact Extends.refl _
    · exact done.steps.extends
  · rw [Journal.steps_congr (performed.others other own)]
    exact Extends.refl _

theorem Performed.length_answer (performed : r.Performed Sound id a j answer j') :
    answer.length = a.width := by
  rcases performed.outcome with dropped | done
  · rw [dropped.answer, List.length_map, a.length_opening]
  · rw [done.answer, List.length_map, a.length_opening]

/-- Identifiers are handed out exactly if the steps are stored. -/
theorem Performed.answered_iff (performed : r.Performed Sound id a j answer j')
    (orderly : j.Orderly id) (few : j.stepCount + a.width ≤ twoTo 128) :
    (∀ x ∈ answer, x.isSome = true) ↔ ∀ s ∈ a.opening j, s ∈ j'.steps id := by
  rcases performed.outcome with dropped | done
  · rw [dropped.answer, Journal.steps_congr dropped.held]
    constructor
    · intro answered s member
      cases answered none (List.mem_map.2 ⟨s, member, rfl⟩)
    · intro stored x member
      obtain ⟨s, new, -⟩ := List.mem_map.1 member
      have old := orderly.older _ (List.mem_map_of_mem (stored s new))
      have fresh := List.mem_map_of_mem (f := Step.stepId) new
      rw [a.stepIds_opening] at fresh
      exact absurd old (Nat.not_lt.2 (mem_freshIds few fresh).1)
  · obtain ⟨kept, steps, -⟩ := done.steps
    rw [done.answer, steps]
    constructor
    · intro _ s member
      exact List.mem_append_right _ member
    · intro _ x member
      obtain ⟨s, -, rfl⟩ := List.mem_map.1 member
      rfl

theorem Performed.mem_stepIds (performed : r.Performed Sound id a j answer j')
    (few : j.stepCount + a.width ≤ twoTo 128) {other : RequestId} {x : StepId}
    (member : x ∈ (j'.steps other).map Step.stepId) :
    x ∈ (j.steps other).map Step.stepId ∨ other = id ∧ j.stepCount ≤ x.bits.toNat := by
  by_cases own : other = id
  · subst own
    rcases performed.outcome with dropped | done
    · rw [Journal.steps_congr dropped.held] at member
      exact Or.inl member
    · rw [done.steps.stepIds] at member
      rcases List.mem_append.1 member with old | new
      · exact Or.inl old
      · exact Or.inr ⟨rfl, (mem_freshIds few new).1⟩
  · rw [Journal.steps_congr (performed.others other own)] at member
    exact Or.inl member

theorem Performed.allOrderly (performed : r.Performed Sound id a j answer j')
    (orderly : j.AllOrderly) (forward : j.clock.Forward)
    (few : j.stepCount + a.width ≤ twoTo 128) : j'.AllOrderly := by
  refine ⟨?_, ?_⟩
  · intro other
    by_cases own : other = id
    · subst own
      exact performed.orderly (orderly.each other) forward (Nat.le_trans performed.most few)
    · exact (orderly.each other).carry (performed.others other own) performed.counted forward
        performed.onward
  · intro one other x member member'
    rcases performed.mem_stepIds few member with old | ⟨own, late⟩
    · rcases performed.mem_stepIds few member' with old' | ⟨own', late'⟩
      · exact orderly.apart one other x old old'
      · exact absurd ((orderly.each one).older x old) (Nat.not_lt.2 late')
    · rcases performed.mem_stepIds few member' with old' | ⟨own', late'⟩
      · exact absurd ((orderly.each other).older x old') (Nat.not_lt.2 late)
      · rw [own, own']

/-- Every call does all that it asks for, or nothing. -/
theorem use_spec (retains : r.Retains Sound) (sound : Sound j) (orderly : j.Orderly id) {u : Use}
    (dated : u.Dated) : r.Performed Sound id u.recording j (r.use id u j).1 (r.use id u j).2 := by
  cases u with
  | start participants =>
    exact perform_spec retains sound orderly.named orderly.once dated
  | record participant startTime success =>
    have performed := perform_spec retains sound orderly.named orderly.once
      (a := .finished participant startTime success) dated
    have single := performed.length_answer
    dsimp only [use, recordStep]
    rcases equal : r.perform id (.finished participant startTime success) j with ⟨answer, k⟩
    rw [equal] at performed single
    obtain ⟨x, rfl⟩ := List.length_eq_one_iff.1 single
    exact performed
  | close closes =>
    have performed := perform_spec retains sound orderly.named orderly.once (a := .close closes) dated
    have nobody : (r.perform id (.close closes) j).1 = [] :=
      List.eq_nil_of_length_eq_zero performed.length_answer
    rw [nobody] at performed
    exact performed
  | look =>
    obtain ⟨soundLoaded, held, -⟩ := retains.load sound id
    have onward := (load_touches r id j).onward
    have counted := (load_touches r id j).stepCount
    dsimp only [use]
    rw [snd_trace]
    refine ⟨soundLoaded, onward, Nat.le_of_eq counted.symm, Nat.le_of_eq counted,
      fun other _ => congrFun held other, Or.inr ⟨?_, ?_, rfl, onward.taken, counted⟩⟩
    · rw [held]
      exact orderly.named
    · rw [Journal.steps_congr (congrFun held id)]
      exact ⟨_, (List.append_nil _).symm, List.forall₂_same.2 fun s _ => Step.heeds_of_unnamed rfl⟩

/--
The calls of a recorder, in any order and for any requests, over a store that may fail at any of its
operations but loses nothing. Every call leaves the other requests alone; it appends the steps that
it opens and closes open steps that it names, or it changes nothing; and it hands out identifiers
exactly if the steps are stored. At the end every trace is in order and extends the one at the
beginning.
-/
theorem useAll_append_only (retains : r.Retains Sound) {uses : List (RequestId × Use)}
    (dated : ∀ u ∈ uses, u.2.Dated) {j : Journal} (sound : Sound j) (forward : j.clock.Forward)
    (orderly : j.AllOrderly) (few : j.stepCount + useWidth uses ≤ twoTo 128) :
    (∀ before id u after, uses = before ++ (id, u) :: after →
      r.Performed Sound id u.recording (r.useAll before j) (r.use id u (r.useAll before j)).1
          (r.use id u (r.useAll before j)).2 ∧
        ((∀ x ∈ (r.use id u (r.useAll before j)).1, x.isSome = true) ↔
          ∀ s ∈ u.recording.opening (r.useAll before j),
            s ∈ (r.use id u (r.useAll before j)).2.steps id)) ∧
      (r.useAll uses j).AllOrderly ∧
      ∀ id, Extends (j.steps id) ((r.useAll uses j).steps id) := by
  induction uses generalizing j with
  | nil =>
    refine ⟨?_, orderly, fun id => Extends.refl _⟩
    intro before id u after split
    simp at split
  | cons first rest ih =>
    obtain ⟨id, u⟩ := first
    rw [useWidth] at few
    obtain ⟨datedFirst, datedRest⟩ := List.forall_mem_cons.1 dated
    have performed := use_spec retains sound (orderly.each id) (u := u) datedFirst
    have room : j.stepCount + u.recording.width ≤ twoTo 128 := by omega
    have most := performed.most
    obtain ⟨calls, orderlyLater, extendsLater⟩ := ih datedRest performed.sound
      (forward.onward performed.onward) (performed.allOrderly orderly forward room) (by omega)
    refine ⟨?_, orderlyLater, fun other => (performed.extends other).trans (extendsLater other)⟩
    intro before id' u' after split
    cases before with
    | nil =>
      cases split
      exact ⟨performed, performed.answered_iff (orderly.each id) room⟩
    | cons head tail =>
      cases split
      exact calls tail id' u' after rfl

theorem allOrderly_of_empty {j : Journal} (nothing : ∀ id, j.held id = none) : j.AllOrderly := by
  refine ⟨fun id => Journal.orderly_of_none (nothing id), ?_⟩
  intro id other x member
  rw [Journal.steps_of_none (nothing id)] at member
  cases member

/--
Two steps are opened, a batch closes one of them twice, a stranger's step and nobody's, another
request asks for it too, and a blank one for a step; the second save and the fourth load fail.
-/
def usesRehearsal : List (RequestId × Use) :=
  [(⟨"r"⟩, .start ["a", "b"]), (⟨"r"⟩, .close [(some (Journal.stepId 0), true)]),
    (⟨"r"⟩, .close [(none, true), (some (Journal.stepId 0), true),
      (some (Journal.stepId 9), true), (some (Journal.stepId 0), false)]),
    (⟨"s"⟩, .close [(some (Journal.stepId 1), true)]), (⟨" "⟩, .start ["c"]),
    (⟨"s"⟩, .record "d" ⟨9, 0⟩ false), (⟨"r"⟩, .look)]

theorem dated_usesRehearsal : ∀ u ∈ usesRehearsal, u.2.Dated := by
  simp only [usesRehearsal, List.forall_mem_cons]
  refine ⟨trivial, trivial, trivial, trivial, trivial, ?_, trivial, ?_⟩
  · exact (by decide : (⟨9, 0⟩ : Timestamp).inCalendar = true)
  · exact fun u member => (List.not_mem_nil member).elim

/-- Once over each kind of store. -/
theorem useAll_append_only_rehearsal :
    let script := [.proceed, .proceed, .stall 3, .refuse, .proceed, .proceed, .stall 9]
    let j := (World.rehearsal script).journal
    let k := Coordinator.rehearsal.recorder.useAll usesRehearsal j
    let j' := (World.durableRehearsal script).journal
    let k' := Coordinator.rehearsal.recorder.useAll usesRehearsal j'
    k.AllOrderly ∧ (∀ id, Extends (j.steps id) (k.steps id)) ∧
      (k.steps ⟨"r"⟩).map Step.success = [some true, none] ∧
      k'.AllOrderly ∧ ∀ id, Extends (j'.steps id) (k'.steps id) := by
  intro script j k j' k'
  obtain ⟨-, orderly, grown⟩ := useAll_append_only (retains_lasting _) dated_usesRehearsal
    (j := j) (World.lasting_rehearsal _) (World.forward_rehearsal _)
    (allOrderly_of_empty (World.held_rehearsal _)) (by decide)
  obtain ⟨-, orderly', grown'⟩ := useAll_append_only (retains_lasting _) dated_usesRehearsal
    (j := j') (World.lasting_durableRehearsal _) (World.forward_rehearsal script)
    (allOrderly_of_empty (World.held_durableRehearsal _)) (by decide)
  exact ⟨orderly, grown, by decide, orderly', grown'⟩

end Recorder

end RollCall
