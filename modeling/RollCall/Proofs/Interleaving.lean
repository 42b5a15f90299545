import Mathlib.Logic.Function.Basic
import RollCall.Proofs.Keeping

set_option autoImplicit false

/-!
Uses of the recorder that run at once, for one request on one store. Each reads the trace and then
writes it, and what it writes rests on what it has read; a write drops what others wrote in between.
-/
namespace RollCall

open RequestTrace

variable {ι : Type}

inductive Stage (ι : Type) where
  | waiting
  /-- The trace has been read, when it rested on these uses. -/
  | drafted (draft : Draft) (change : Change) (base : List ι)
  | finished (answer : List (Option StepId)) (change : Change)

def Stage.change : Stage ι → Change
  | .waiting => .none
  | .drafted _ c _ => c
  | .finished _ c => c

/-- The identifiers given back are those of the steps opened. -/
def Stage.Answers : Stage ι → Prop
  | .waiting => True
  | .drafted d c _ => ∀ x, some x ∈ d.answer ↔ x ∈ c.opened.map Step.stepId
  | .finished answer c => ∀ x, some x ∈ answer ↔ x ∈ c.opened.map Step.stepId

/-- Several uses of the recorder with the journal that they share. -/
structure Interleaving (ι : Type) where
  journal : Journal
  stage : ι → Stage ι
  /-- The uses that the stored trace rests on, in the order in which they wrote it. -/
  rests : List ι

namespace Interleaving

def start (j : Journal) : Interleaving ι := ⟨j, fun _ => .waiting, []⟩

def change (s : Interleaving ι) (i : ι) : Change := (s.stage i).change

/-- The next access of one use to the store: first it reads, then it writes. -/
def access [DecidableEq ι] (r : Recorder) (id : RequestId) (uses : ι → Recording)
    (s : Interleaving ι) (i : ι) : Interleaving ι :=
  match s.stage i with
  | .waiting =>
    let (d, j) := r.draft id (uses i) s.journal
    let c := d.change (r.stored id s.journal)
    { s with journal := j, stage := Function.update s.stage i (.drafted d c s.rests) }
  | .drafted d c base =>
    let (answer, j) := r.commit d s.journal
    let rests := match d with
      | .settled _ => s.rests
      | .pending _ _ => base ++ [i]
    ⟨j, Function.update s.stage i (.finished answer c), rests⟩
  | .finished _ _ => s

def run [DecidableEq ι] (r : Recorder) (id : RequestId) (uses : ι → Recording) (schedule : List ι)
    (s : Interleaving ι) : Interleaving ι :=
  schedule.foldl (access r id uses) s

/-- The steps that were there first with the changes of some uses. -/
structure Rests (first : List Step) (change : ι → Change) (uses : List ι) (steps : List Step) :
    Prop where
  once : (steps.map Step.stepId).Nodup
  stepIds : steps.map Step.stepId =
    first.map Step.stepId ++ uses.flatMap fun h => (change h).opened.map Step.stepId
  openIds : ∀ x, x ∈ openIds steps ↔
    (x ∈ RequestTrace.openIds first ∨ ∃ h ∈ uses, x ∈ RequestTrace.openIds (change h).opened) ∧
      ∀ h ∈ uses, x ∉ (change h).closed
  closed : ∀ h ∈ uses, ∀ x ∈ (change h).closed, x ∈ steps.map Step.stepId

variable {first : List Step} {change change' : ι → Change} {uses : List ι} {steps : List Step}

theorem Rests.congr (rests : Rests first change uses steps)
    (same : ∀ h ∈ uses, change' h = change h) : Rests first change' uses steps := by
  refine ⟨rests.once, ?_, ?_, ?_⟩
  · rw [rests.stepIds]
    congr 1
    apply List.flatMap_congr
    intro h member
    rw [same h member]
  · intro x
    have opened : (∃ h ∈ uses, x ∈ RequestTrace.openIds (change' h).opened) ↔
        ∃ h ∈ uses, x ∈ RequestTrace.openIds (change h).opened := by
      apply exists_congr
      intro h
      apply and_congr_right
      intro member
      rw [same h member]
    have closed : (∀ h ∈ uses, x ∉ (change' h).closed) ↔ ∀ h ∈ uses, x ∉ (change h).closed := by
      apply forall_congr'
      intro h
      apply imp_congr_right
      intro member
      rw [same h member]
    rw [rests.openIds, opened, closed]
  · intro h member
    rw [same h member]
    exact rests.closed h member

/-- What is open once one more has closed some of the steps that were open and opened others. -/
theorem Rests.openIds_amended {i : ι} (rests : Rests first change uses steps)
    (spared : ∀ x ∈ RequestTrace.openIds (change i).opened,
      (∀ h ∈ uses, x ∉ (change h).closed) ∧ x ∉ (change i).closed) (x : StepId) :
    x ∈ ((RequestTrace.openIds steps).filter (· ∉ (change i).closed) ++
        RequestTrace.openIds (change i).opened) ↔
      (x ∈ RequestTrace.openIds first ∨
          ∃ h ∈ uses ++ [i], x ∈ RequestTrace.openIds (change h).opened) ∧
        ∀ h ∈ uses ++ [i], x ∉ (change h).closed := by
  have opener : (∃ h ∈ uses ++ [i], x ∈ RequestTrace.openIds (change h).opened) ↔
      (∃ h ∈ uses, x ∈ RequestTrace.openIds (change h).opened) ∨
        x ∈ RequestTrace.openIds (change i).opened := by
    simp only [List.mem_append, List.mem_singleton, or_and_right, exists_or, exists_eq_left]
  have closer : (∀ h ∈ uses ++ [i], x ∉ (change h).closed) ↔
      (∀ h ∈ uses, x ∉ (change h).closed) ∧ x ∉ (change i).closed := by
    rw [List.forall_mem_append, List.forall_mem_singleton]
  rw [List.mem_append, List.mem_filter, rests.openIds, decide_eq_true_iff, opener, closer]
  constructor
  · intro kept
    rcases kept with ⟨⟨stood, untouched⟩, left⟩ | added
    · refine ⟨?_, untouched, left⟩
      rcases stood with early | opened
      · exact Or.inl early
      · exact Or.inr (Or.inl opened)
    · exact ⟨Or.inr (Or.inr added), spared x added⟩
  · intro stands
    obtain ⟨stood, untouched, left⟩ := stands
    rcases stood with early | opened | added
    · exact Or.inl ⟨⟨Or.inl early, untouched⟩, left⟩
    · exact Or.inl ⟨⟨Or.inr opened, untouched⟩, left⟩
    · exact Or.inr added

/-- What is written rests on what was read and on the use that writes it. -/
theorem Rests.amended {id : RequestId} {before after : Nat} {t : RequestTrace}
    {answer : List (Option StepId)} {i : ι} (rests : Rests first change uses steps)
    (amends : Recorder.Amends id steps before after (.pending t answer))
    (made : change i = Draft.change steps (.pending t answer))
    (older : ∀ x ∈ steps.map Step.stepId, x.bits.toNat < before) :
    Rests first change (uses ++ [i]) t.steps := by
  have listed := amends.stepIds t rfl
  have opened := amends.openIds t rfl
  have fresh := amends.fresh
  rw [← made] at listed opened fresh
  have known : ∀ h ∈ uses ++ [i], ∀ x ∈ (change h).closed, x ∈ steps.map Step.stepId := by
    rw [List.forall_mem_append, List.forall_mem_singleton]
    refine ⟨rests.closed, ?_⟩
    intro x closed
    rw [made] at closed
    exact mem_of_mem_openIds (Draft.mem_openIds_of_closed closed)
  have young {x : StepId} (added : x ∈ (change i).opened.map Step.stepId) :
      x ∉ steps.map Step.stepId := by
    intro found
    have low := older x found
    have high := (fresh x added).1
    omega
  refine ⟨?_, ?_, ?_, ?_⟩
  · rw [listed, List.nodup_append]
    refine ⟨rests.once, made ▸ amends.once, ?_⟩
    intro x found y added same
    rw [← same] at added
    exact young added found
  · rw [listed, rests.stepIds, List.flatMap_append, List.append_assoc]
    simp
  · intro x
    rw [opened]
    apply rests.openIds_amended
    intro y stillOpen
    have added := young (mem_of_mem_openIds stillOpen)
    refine ⟨?_, ?_⟩
    · intro h member closed
      exact added (known h (List.mem_append_left _ member) y closed)
    · intro closed
      exact added (known i (List.mem_append_right _ (List.mem_singleton_self i)) y closed)
  · intro h member x closed
    rw [listed]
    exact List.mem_append_left _ (known h member x closed)

/-- What is known of changes whose steps have their identifiers from one count. -/
structure Numbered (first : List Step) (change : ι → Change) (count : Nat) : Prop where
  firstOlder : ∀ x ∈ first.map Step.stepId, x.bits.toNat < count
  older : ∀ i x, x ∈ (change i).opened.map Step.stepId ∨ x ∈ (change i).closed →
    x.bits.toNat < count
  new : ∀ i, ∀ x ∈ (change i).opened.map Step.stepId, x ∉ first.map Step.stepId
  apart : ∀ i k x, x ∈ (change i).opened.map Step.stepId →
    x ∈ (change k).opened.map Step.stepId → i = k
  seen : ∀ i, ∀ x ∈ (change i).closed,
    x ∈ RequestTrace.openIds first ∨ ∃ k, x ∈ RequestTrace.openIds (change k).opened

theorem Numbered.found_older {count : Nat} (numbered : Numbered first change count)
    (rests : Rests first change uses steps) :
    ∀ x ∈ steps.map Step.stepId, x.bits.toNat < count := by
  intro x member
  rw [rests.stepIds, List.mem_append, List.mem_flatMap] at member
  rcases member with early | ⟨h, -, added⟩
  · exact numbered.firstOlder x early
  · exact numbered.older h x (Or.inl added)

/-- One more change, of one who had made none. -/
theorem Numbered.amended {id : RequestId} {before after : Nat} {d : Draft} {i : ι}
    (numbered : Numbered first change before) (rests : Rests first change uses steps)
    (amends : Recorder.Amends id steps before after d) (nothing : change i = .none)
    (made : change' i = d.change steps) (others : ∀ k, k ≠ i → change' k = change k) :
    Numbered first change' after := by
  have le := amends.le
  have fresh := amends.fresh
  rw [← made] at fresh
  have closedFound : ∀ x ∈ (change' i).closed, x ∈ RequestTrace.openIds steps := by
    intro x closed
    rw [made] at closed
    exact Draft.mem_openIds_of_closed closed
  -- What another has opened is not among the new steps.
  have foreign {k : ι} {x : StepId} (different : k ≠ i)
      (opened : x ∈ (change' k).opened.map Step.stepId) :
      x ∉ (change' i).opened.map Step.stepId := by
    intro added
    rw [others k different] at opened
    have low := numbered.older k x (Or.inl opened)
    have high := (fresh x added).1
    omega
  have carried {x : StepId} {k : ι} (opened : x ∈ RequestTrace.openIds (change k).opened) :
      x ∈ RequestTrace.openIds (change' k).opened := by
    have different : k ≠ i := by
      intro same
      rw [same, nothing] at opened
      cases opened
    rw [others k different]
    exact opened
  refine ⟨?_, ?_, ?_, ?_, ?_⟩
  · intro x member
    have low := numbered.firstOlder x member
    omega
  · intro k x member
    by_cases same : k = i
    · subst same
      rcases member with opened | closed
      · exact (fresh x opened).2
      · have low := numbered.found_older rests x (mem_of_mem_openIds (closedFound x closed))
        omega
    · rw [others k same] at member
      have low := numbered.older k x member
      omega
  · intro k x opened early
    by_cases same : k = i
    · subst same
      have low := numbered.firstOlder x early
      have high := (fresh x opened).1
      omega
    · rw [others k same] at opened
      exact numbered.new k x opened early
  · intro k l x openedK openedL
    by_cases sameK : k = i
    · by_cases sameL : l = i
      · rw [sameK, sameL]
      · subst sameK
        exact absurd openedK (foreign sameL openedL)
    · by_cases sameL : l = i
      · subst sameL
        exact absurd openedL (foreign sameK openedK)
      · rw [others k sameK] at openedK
        rw [others l sameL] at openedL
        exact numbered.apart k l x openedK openedL
  · intro k x closed
    have known : x ∈ RequestTrace.openIds first ∨
        ∃ h, x ∈ RequestTrace.openIds (change h).opened := by
      by_cases same : k = i
      · subst same
        rcases ((rests.openIds x).1 (closedFound x closed)).1 with early | ⟨h, -, opened⟩
        · exact Or.inl early
        · exact Or.inr ⟨h, opened⟩
      · rw [others k same] at closed
        exact numbered.seen k x closed
    rcases known with early | ⟨h, opened⟩
    · exact Or.inl early
    · exact Or.inr ⟨h, carried opened⟩

/-- A trace that rests on uses which have read the trace. -/
structure Carries (first : List Step) (s : Interleaving ι) (uses : List ι) (steps : List Step) :
    Prop where
  rests : Rests first s.change uses steps
  begun : ∀ h ∈ uses, s.stage h ≠ .waiting

/-- What holds of uses under way on a healthy store that had these steps first. -/
structure Sound (id : RequestId) (Holds : Option RequestTrace → Journal → Prop)
    (first : List Step) (s : Interleaving ι) : Prop where
  stored : ∃ t, Holds t s.journal ∧
    Carries first s s.rests ((t.map RequestTrace.steps).getD [])
  drafted : ∀ i t answer c base, s.stage i = .drafted (.pending t answer) c base →
    t.requestId = id ∧ Carries first s (base ++ [i]) t.steps
  numbered : Numbered first s.change s.journal.stepCount
  answers : ∀ i, (s.stage i).Answers

variable {r : Recorder} {id : RequestId} {Holds : Option RequestTrace → Journal → Prop}
  {s : Interleaving ι} {i : ι}

/-- At the beginning nothing is under way. -/
theorem sound_start (keeps : r.Keeps id Holds) {t : Option RequestTrace} {j : Journal}
    (held : Holds t j) (once : ((r.stored id j).map Step.stepId).Nodup)
    (older : ∀ s ∈ r.stored id j, s.stepId.bits.toNat < j.stepCount) :
    Sound id Holds (r.stored id j) (start j : Interleaving ι) := by
  have found := keeps.stored held
  refine ⟨⟨t, held, ⟨?_, ?_, ?_, ?_⟩, ?_⟩, ?_, ⟨?_, ?_, ?_, ?_, ?_⟩, ?_⟩
  · rw [← found]
    exact once
  · rw [← found]
    simp [start]
  · rw [← found]
    simp [start]
  · simp [start]
  · simp [start]
  · intro i t' answer c base drafted
    cases drafted
  · intro x member
    obtain ⟨s, listed, rfl⟩ := List.mem_map.1 member
    exact older s listed
  · intro i x member
    rcases member with opened | closed
    · cases opened
    · cases closed
  · intro i x opened
    cases opened
  · intro i k x opened
    cases opened
  · intro i x closed
    cases closed
  · intro i
    exact trivial

/-- The stage of one use goes on, and what it had made of the trace stays. -/
structure Moves (s s' : Interleaving ι) (i : ι) : Prop where
  others : ∀ k, k ≠ i → s'.stage k = s.stage k
  begun : s'.stage i ≠ .waiting
  kept : s.stage i = .waiting ∨ s'.change i = s.change i

theorem Moves.change_of_ne {s' : Interleaving ι} (moves : Moves s s' i) {k : ι}
    (different : k ≠ i) : s'.change k = s.change k := by
  rw [change, change, moves.others k different]

/-- What is stored after a draft has been written, if there was anything to write. -/
theorem Sound.committed (sound : Sound id Holds first s) (keeps : r.Keeps id Holds) {d : Draft}
    {c : Change} {base rests : List ι} (drafted : s.stage i = .drafted d c base)
    (carried : rests = match d with
      | .settled _ => s.rests
      | .pending _ _ => base ++ [i]) :
    (r.commit d s.journal).1 = d.answer ∧
      ∃ t, Holds t (r.commit d s.journal).2 ∧
        Carries first s rests ((t.map RequestTrace.steps).getD []) := by
  cases d with
  | settled answer =>
    rw [carried]
    exact ⟨rfl, sound.stored⟩
  | pending t answer =>
    rw [carried]
    obtain ⟨named, carries⟩ := sound.drafted i t answer c base drafted
    obtain ⟨found, held, -⟩ := sound.stored
    obtain ⟨saved, still⟩ := keeps.save t held named
    rcases equal : r.save t s.journal with ⟨done, j⟩
    rw [equal] at saved still
    subst saved
    simp only [Recorder.commit, equal]
    exact ⟨rfl, some t, still, carries⟩

variable [DecidableEq ι]

theorem stage_update (s : Interleaving ι) (i : ι) (stage : Stage ι) (j : Journal) (rests : List ι) :
    (⟨j, Function.update s.stage i stage, rests⟩ : Interleaving ι).stage i = stage :=
  Function.update_self i stage s.stage

theorem moves_update (s : Interleaving ι) {i : ι} {stage : Stage ι} (j : Journal) (rests : List ι)
    (begun : stage ≠ .waiting) (kept : s.stage i = .waiting ∨ stage.change = s.change i) :
    Moves s ⟨j, Function.update s.stage i stage, rests⟩ i := by
  refine ⟨?_, ?_, ?_⟩
  · intro k different
    exact Function.update_of_ne different _ _
  · rw [stage_update]
    exact begun
  · rw [change, stage_update]
    exact kept

theorem Carries.moved {s' : Interleaving ι} (carries : Carries first s uses steps)
    (moves : Moves s s' i) : Carries first s' uses steps := by
  refine ⟨carries.rests.congr ?_, ?_⟩
  · intro h member
    by_cases same : h = i
    · subst same
      rcases moves.kept with waiting | kept
      · exact absurd waiting (carries.begun h member)
      · exact kept
    · exact moves.change_of_ne same
  · intro h member
    by_cases same : h = i
    · rw [same]
      exact moves.begun
    · rw [moves.others h same]
      exact carries.begun h member

/-- When one use goes on, only what it has drafted is new. -/
theorem Sound.moved {s' : Interleaving ι} (sound : Sound id Holds first s) (moves : Moves s s' i)
    (stored : ∃ t, Holds t s'.journal ∧
      Carries first s' s'.rests ((t.map RequestTrace.steps).getD []))
    (drafted : ∀ t answer c base, s'.stage i = .drafted (.pending t answer) c base →
      t.requestId = id ∧ Carries first s' (base ++ [i]) t.steps)
    (numbered : Numbered first s'.change s'.journal.stepCount) (answers : (s'.stage i).Answers) :
    Sound id Holds first s' := by
  refine ⟨stored, ?_, numbered, ?_⟩
  · intro k t answer c base pending
    by_cases same : k = i
    · subst same
      exact drafted t answer c base pending
    · rw [moves.others k same] at pending
      obtain ⟨named, carries⟩ := sound.drafted k t answer c base pending
      exact ⟨named, carries.moved moves⟩
  · intro k
    by_cases same : k = i
    · subst same
      exact answers
    · rw [moves.others k same]
      exact sound.answers k

/-- Reading the trace. -/
theorem Sound.read (sound : Sound id Holds first s) (keeps : r.Keeps id Holds) {a : Recording}
    (waiting : s.stage i = .waiting) {d : Draft} {j : Journal}
    (drafts : r.draft id a s.journal = (d, j)) (few : j.stepCount ≤ twoTo 128) :
    Sound id Holds first
      ⟨j, Function.update s.stage i (.drafted d (d.change (r.stored id s.journal)) s.rests),
        s.rests⟩ := by
  obtain ⟨t, held, carries⟩ := sound.stored
  rw [keeps.stored held]
  have amended := Recorder.draft_amends keeps held carries.rests.once a
  rw [drafts] at amended
  obtain ⟨amends, still⟩ := amended few
  generalize next : Stage.drafted d (d.change ((t.map RequestTrace.steps).getD [])) s.rests = stage
  have moves : Moves s ⟨j, Function.update s.stage i stage, s.rests⟩ i :=
    moves_update s j s.rests (by simp [← next]) (Or.inl waiting)
  have made : Interleaving.change ⟨j, Function.update s.stage i stage, s.rests⟩ i =
      d.change ((t.map RequestTrace.steps).getD []) := by
    rw [change, stage_update, ← next]
    rfl
  have nothing : s.change i = .none := by
    rw [change, waiting]
    rfl
  refine sound.moved moves ⟨t, still, carries.moved moves⟩ ?_ ?_ ?_
  · intro t' answer c base drafted
    rw [stage_update, ← next] at drafted
    cases drafted
    refine ⟨amends.named t' rfl, ?_, ?_⟩
    · exact (carries.moved moves).rests.amended amends made
        (sound.numbered.found_older carries.rests)
    · intro h member
      rcases List.mem_append.1 member with early | last
      · exact (carries.moved moves).begun h early
      · rw [List.mem_singleton.1 last]
        exact moves.begun
  · exact sound.numbered.amended carries.rests amends nothing made
      fun k different => moves.change_of_ne different
  · rw [stage_update, ← next]
    exact amends.answer

/-- Writing what was drafted. -/
theorem Sound.write (sound : Sound id Holds first s) (keeps : r.Keeps id Holds) {d : Draft}
    {c : Change} {base rests : List ι} (drafted : s.stage i = .drafted d c base)
    (carried : rests = match d with
      | .settled _ => s.rests
      | .pending _ _ => base ++ [i]) :
    Sound id Holds first
      ⟨(r.commit d s.journal).2, Function.update s.stage i (.finished (r.commit d s.journal).1 c),
        rests⟩ := by
  obtain ⟨answered, t, still, carries⟩ := sound.committed keeps drafted carried
  rw [answered]
  have same : c = s.change i := by
    rw [change, drafted]
    rfl
  have moves : Moves s ⟨(r.commit d s.journal).2,
      Function.update s.stage i (.finished d.answer c), rests⟩ i :=
    moves_update s _ rests (by simp) (Or.inr same)
  have unchanged : Interleaving.change ⟨(r.commit d s.journal).2,
      Function.update s.stage i (.finished d.answer c), rests⟩ = s.change := by
    funext k
    by_cases equal : k = i
    · rw [equal, change, stage_update]
      exact same
    · exact moves.change_of_ne equal
  have answers := sound.answers i
  rw [drafted] at answers
  refine sound.moved moves ⟨t, still, carries.moved moves⟩ ?_ ?_ ?_
  · intro t' answer c' base' pending
    rw [stage_update] at pending
    cases pending
  · rw [unchanged]
    show Numbered first s.change (r.commit d s.journal).2.stepCount
    rw [Recorder.stepCount_commit]
    exact sound.numbered
  · rw [stage_update]
    exact answers

theorem Sound.access (uses : ι → Recording) (i : ι) (sound : Sound id Holds first s)
    (keeps : r.Keeps id Holds)
    (few : (access r id uses s i).journal.stepCount ≤ twoTo 128) :
    Sound id Holds first (access r id uses s i) := by
  unfold Interleaving.access at few ⊢
  cases stage : s.stage i with
  | waiting =>
    rw [stage] at few
    rcases drafts : r.draft id (uses i) s.journal with ⟨d, j⟩
    rw [drafts] at few
    exact sound.read keeps stage drafts few
  | drafted d c base => exact sound.write keeps stage (by cases d <;> rfl)
  | finished answer c => exact sound

theorem stepCount_le_access (r : Recorder) (id : RequestId) (uses : ι → Recording)
    (s : Interleaving ι) (i : ι) :
    s.journal.stepCount ≤ (Interleaving.access r id uses s i).journal.stepCount := by
  unfold Interleaving.access
  cases s.stage i with
  | waiting => exact Recorder.stepCount_le_draft r id (uses i) s.journal
  | drafted d c base => exact Nat.le_of_eq (Recorder.stepCount_commit r d s.journal).symm
  | finished answer c => exact Nat.le_refl _

theorem stepCount_le_run (r : Recorder) (id : RequestId) (uses : ι → Recording)
    (schedule : List ι) (s : Interleaving ι) :
    s.journal.stepCount ≤ (run r id uses schedule s).journal.stepCount := by
  induction schedule generalizing s with
  | nil => exact Nat.le_refl _
  | cons i rest ih =>
    exact Nat.le_trans (stepCount_le_access r id uses s i) (ih (Interleaving.access r id uses s i))

/-- Whatever the order of the accesses. -/
theorem Sound.run (uses : ι → Recording) (schedule : List ι) (sound : Sound id Holds first s)
    (keeps : r.Keeps id Holds) (few : (run r id uses schedule s).journal.stepCount ≤ twoTo 128) :
    Sound id Holds first (run r id uses schedule s) := by
  induction schedule generalizing s with
  | nil => exact sound
  | cons i rest ih =>
    have enough := stepCount_le_run r id uses rest (Interleaving.access r id uses s i)
    have next := sound.access uses i keeps (Nat.le_trans enough few)
    exact ih next few

end Interleaving

end RollCall
