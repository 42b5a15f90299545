import RollCall.Proofs.Interleaving

set_option autoImplicit false

/-!
What is lost when uses of the recorder run at once. One that reads before another has written, and
writes after it, takes back what the other wrote; uses that come one after another lose nothing.
-/
namespace RollCall

open RequestTrace

namespace Interleaving

variable {ι : Type}

/--
Every identifier that was given back is in the stored trace, and every step that was found open and
closed is closed there.
-/
def NothingLost (r : Recorder) (id : RequestId) (s : Interleaving ι) : Prop :=
  ∀ i answer c, s.stage i = .finished answer c →
    (∀ x, some x ∈ answer → x ∈ (r.stored id s.journal).map Step.stepId) ∧
      ∀ x ∈ c.closed, ∃ t ∈ r.stored id s.journal, t.stepId = x ∧ t.isOpen = false

/--
The stored trace rests on every use that gave an identifier back and, for each step that was found
open and closed, on one that closed it.
-/
def Upheld (s : Interleaving ι) : Prop :=
  ∀ i answer c, s.stage i = .finished answer c →
    ((∃ x, some x ∈ answer) → i ∈ s.rests) ∧ ∀ x ∈ c.closed, ∃ h ∈ s.rests, x ∈ (s.change h).closed

variable {r : Recorder} {id : RequestId} {Holds : Option RequestTrace → Journal → Prop}
  {first : List Step} {s : Interleaving ι}

theorem Sound.rests_stored (sound : Sound id Holds first s) (keeps : r.Keeps id Holds) :
    Rests first s.change s.rests (r.stored id s.journal) := by
  obtain ⟨t, held, carries⟩ := sound.stored
  rw [keeps.stored held]
  exact carries.rests

/-- A step is stored exactly when the trace rests on the use that opened it. -/
theorem Sound.opened_stored_iff (sound : Sound id Holds first s) (keeps : r.Keeps id Holds) {i : ι}
    {x : StepId} (opened : x ∈ (s.change i).opened.map Step.stepId) :
    x ∈ (r.stored id s.journal).map Step.stepId ↔ i ∈ s.rests := by
  rw [(sound.rests_stored keeps).stepIds, List.mem_append, List.mem_flatMap]
  constructor
  · intro present
    rcases present with early | ⟨h, member, added⟩
    · exact absurd early (sound.numbered.new i x opened)
    · rw [sound.numbered.apart i h x opened added]
      exact member
  · intro member
    exact Or.inr ⟨i, member, opened⟩

/-- A step that was found open is stored closed exactly when the trace rests on one that closed
it. -/
theorem Sound.closed_stored_iff (sound : Sound id Holds first s) (keeps : r.Keeps id Holds) {i : ι}
    {x : StepId} (closed : x ∈ (s.change i).closed) :
    (∃ t ∈ r.stored id s.journal, t.stepId = x ∧ t.isOpen = false) ↔
      ∃ h ∈ s.rests, x ∈ (s.change h).closed := by
  have rests := sound.rests_stored keeps
  rw [exists_closed_iff rests.once, rests.openIds]
  constructor
  · intro closedNow
    obtain ⟨listed, shut⟩ := closedNow
    have stood : x ∈ RequestTrace.openIds first ∨
        ∃ h ∈ s.rests, x ∈ RequestTrace.openIds (s.change h).opened := by
      rcases sound.numbered.seen i x closed with early | ⟨k, opened⟩
      · exact Or.inl early
      · have member := (sound.opened_stored_iff keeps (mem_of_mem_openIds opened)).1 listed
        exact Or.inr ⟨k, member, opened⟩
    by_contra nobody
    apply shut
    refine ⟨stood, ?_⟩
    intro h member closer
    exact nobody ⟨h, member, closer⟩
  · intro resting
    obtain ⟨h, member, closer⟩ := resting
    refine ⟨rests.closed h member x closer, ?_⟩
    intro still
    exact still.2 h member closer

/-- On what is stored depends what is lost. -/
theorem Sound.nothingLost_iff (sound : Sound id Holds first s) (keeps : r.Keeps id Holds) :
    s.NothingLost r id ↔ s.Upheld := by
  unfold NothingLost Upheld
  apply forall_congr'
  intro i
  apply forall_congr'
  intro answer
  apply forall_congr'
  intro c
  apply imp_congr_right
  intro finished
  have own : s.change i = c := by
    rw [change, finished]
    rfl
  have answers : ∀ x, some x ∈ answer ↔ x ∈ (s.change i).opened.map Step.stepId := by
    have given := sound.answers i
    rw [finished] at given
    rw [own]
    exact given
  apply and_congr
  · constructor
    · intro present returned
      obtain ⟨x, given⟩ := returned
      exact (sound.opened_stored_iff keeps ((answers x).1 given)).1 (present x given)
    · intro upheld x given
      exact (sound.opened_stored_iff keeps ((answers x).1 given)).2 (upheld ⟨x, given⟩)
  · apply forall_congr'
    intro x
    apply imp_congr_right
    intro closed
    rw [← own] at closed
    exact sound.closed_stored_iff keeps closed

/-- No use is under way, and what has been changed is stored. -/
def Settled (s : Interleaving ι) : Prop :=
  ∀ k, s.stage k = .waiting ∨
    ∃ answer c, s.stage k = .finished answer c ∧ (c = .none ∨ k ∈ s.rests)

theorem Settled.upheld (settled : s.Settled) (sound : Sound id Holds first s) : s.Upheld := by
  intro i answer c finished
  have answers := sound.answers i
  rw [finished] at answers
  have own : s.change i = c := by
    rw [change, finished]
    rfl
  rcases settled i with waiting | ⟨answer', c', finished', kept⟩
  · rw [waiting] at finished
    cases finished
  · rw [finished] at finished'
    cases finished'
    rcases kept with rfl | stored
    · refine ⟨?_, ?_⟩
      · intro returned
        obtain ⟨x, given⟩ := returned
        have opened := (answers x).1 given
        cases opened
      · intro x closed
        cases closed
    · refine ⟨fun _ => stored, ?_⟩
      intro x closed
      exact ⟨i, stored, own ▸ closed⟩

variable [DecidableEq ι]

/-- A use that writes before any other reads. -/
theorem Settled.turn (settled : s.Settled) (uses : ι → Recording) (i : ι) :
    (Interleaving.access r id uses (Interleaving.access r id uses s i) i).Settled := by
  rcases settled i with waiting | ⟨answer, c, finished, -⟩
  · rcases drafts : r.draft id (uses i) s.journal with ⟨d, j⟩
    have read : Interleaving.access r id uses s i = ⟨j, Function.update s.stage i
        (.drafted d (d.change (r.stored id s.journal)) s.rests), s.rests⟩ := by
      simp only [Interleaving.access, waiting, drafts]
    rw [read]
    intro k
    by_cases same : k = i
    · subst same
      right
      cases d with
      | settled answer =>
        refine ⟨answer, .none, ?_, Or.inl rfl⟩
        simp [Interleaving.access, Recorder.commit, Draft.change]
      | pending t answer =>
        refine ⟨(r.commit (.pending t answer) j).1,
          Draft.change (r.stored id s.journal) (.pending t answer), ?_, Or.inr ?_⟩
        · simp [Interleaving.access]
        · simp [Interleaving.access]
    · rcases settled k with idle | ⟨answer, c, finished, kept⟩
      · left
        simp [Interleaving.access, same, idle]
      · right
        refine ⟨answer, c, ?_, ?_⟩
        · simp [Interleaving.access, same, finished]
        · rcases kept with nothing | stored
          · exact Or.inl nothing
          · right
            cases d with
            | settled answer => simpa [Interleaving.access] using stored
            | pending t answer => simpa [Interleaving.access] using Or.inl stored
  · have still : Interleaving.access r id uses s i = s := by
      simp only [Interleaving.access, finished]
    rw [still, still]
    exact settled

/-- Uses of the recorder one after another lose nothing. -/
theorem run_turns_nothingLost (uses : ι → Recording) (order : List ι) (keeps : r.Keeps id Holds)
    {t : Option RequestTrace} {j : Journal} (held : Holds t j)
    (once : ((r.stored id j).map Step.stepId).Nodup)
    (older : ∀ s ∈ r.stored id j, s.stepId.bits.toNat < j.stepCount)
    (few : (run r id uses (order.flatMap fun i => [i, i]) (start j)).journal.stepCount ≤ twoTo 128) :
    (run r id uses (order.flatMap fun i => [i, i]) (start j)).NothingLost r id := by
  have sound : Sound id Holds (r.stored id j) (start j : Interleaving ι) :=
    sound_start keeps held once older
  have last := sound.run uses (order.flatMap fun i => [i, i]) keeps few
  have settled : ∀ s : Interleaving ι, s.Settled →
      (run r id uses (order.flatMap fun i => [i, i]) s).Settled := by
    clear few last
    induction order with
    | nil => exact fun s settled => settled
    | cons i rest ih => exact fun s settled => ih _ (settled.turn uses i)
  rw [last.nothingLost_iff keeps]
  exact (settled (start j) fun _ => Or.inl rfl).upheld last

def minute : Recorder := ⟨Span.ofSecs 60, Span.ofMillis 100⟩

def opening : Journal := ⟨Clock.start fun _ => ⟨0, 0⟩, TraceStore.memory ⟨0, 0⟩, 0, false⟩

def twoStarts (second : Bool) : Recording := .start [if second then "b" else "a"]

theorem inMemory_opening : minute.InMemory ⟨"r"⟩ none opening := by
  refine ⟨?_, ?_, ?_, MemoryStore.empty SweepSchedule.standardInterval ⟨0, 0⟩, rfl, rfl, ?_⟩
  · intro d member
    cases member
  · intro m n
    show (⟨0, 0⟩ : Timestamp) < Timestamp.add ⟨0, 0⟩ (Span.ofSecs 60)
    decide
  · intro n
    show (Timestamp.add ⟨0, 0⟩ (Span.ofSecs 60)).seconds ≤ MemoryStore.lastSecond
    decide
  · intro e found
    cases found

/--
Uses of the recorder at once on a healthy store lose nothing exactly when the stored trace rests on
every use that opened a step and on one that closes each step that was found open.
-/
theorem run_nothingLost_iff (uses : ι → Recording) (schedule : List ι) (keeps : r.Keeps id Holds)
    {t : Option RequestTrace} {j : Journal} (held : Holds t j)
    (once : ((r.stored id j).map Step.stepId).Nodup)
    (older : ∀ s ∈ r.stored id j, s.stepId.bits.toNat < j.stepCount)
    (few : (run r id uses schedule (start j)).journal.stepCount ≤ twoTo 128) :
    (run r id uses schedule (start j)).NothingLost r id ↔
      (run r id uses schedule (start j)).Upheld := by
  have sound : Sound id Holds (r.stored id j) (start j : Interleaving ι) :=
    sound_start keeps held once older
  exact (sound.run uses schedule keeps few).nothingLost_iff keeps

/-- One after the other they keep both steps. -/
theorem run_nothingLost_in_turn :
    (run minute ⟨"r"⟩ twoStarts [false, false, true, true] (start opening)).NothingLost minute
      ⟨"r"⟩ := by
  refine (run_nothingLost_iff _ _ (Recorder.keeps_inMemory _ _) inMemory_opening ?_ ?_ ?_).2 ?_
  · decide
  · decide
  · decide
  · intro i answer c finished
    cases i with
    | false =>
      cases finished
      exact ⟨fun _ => by decide, by decide⟩
    | true =>
      cases finished
      exact ⟨fun _ => by decide, by decide⟩

/-- When both have read before either writes, the step of the first is lost. -/
theorem run_loses_a_step :
    minute.InMemory ⟨"r"⟩ none opening ∧
      (∀ i, ∃ answer c, (run minute ⟨"r"⟩ twoStarts [false, true, false, true]
        (start opening)).stage i = .finished answer c) ∧
      ¬ (run minute ⟨"r"⟩ twoStarts [false, true, false, true] (start opening)).NothingLost minute
        ⟨"r"⟩ := by
  refine ⟨inMemory_opening, ?_, ?_⟩
  · intro i
    cases i with
    | false => exact ⟨_, _, rfl⟩
    | true => exact ⟨_, _, rfl⟩
  · intro kept
    have present := (kept false _ _ rfl).1 (Journal.stepId 0) (by decide)
    revert present
    decide

end Interleaving

end RollCall
