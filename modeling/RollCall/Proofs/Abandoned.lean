import RollCall.Proofs.Mirror

set_option autoImplicit false

/-!
Which steps are shown as abandoned when several exchanges share a request. They may begin, end and
be interleaved in any order, and steps that are over may be added; the exchange whose step comes
first in the trace decides for all of them.
-/
namespace RollCall

namespace RequestTrace

theorem mem_insertByStart {s a : Step} {ordered : List Step} :
    a ∈ insertByStart s ordered ↔ a = s ∨ a ∈ ordered := by
  induction ordered with
  | nil => simp [insertByStart]
  | cons t rest ih =>
    rw [insertByStart]
    split
    · rw [List.mem_cons, ih, List.mem_cons]
      exact or_left_comm
    · exact List.mem_cons

theorem mem_sorted {t : RequestTrace} {a : Step} : a ∈ t.sorted.steps ↔ a ∈ t.steps := by
  have inserted (before steps : List Step) :
      a ∈ steps.foldl (fun ordered s => insertByStart s ordered) before ↔
        a ∈ before ∨ a ∈ steps := by
    induction steps generalizing before with
    | nil => simp
    | cons s rest ih =>
      rw [List.foldl_cons, ih, mem_insertByStart, List.mem_cons]
      tauto
  rw [sorted, inserted]
  simp

/-- The line of a step in the route. -/
def line (t : RequestTrace) (s : Step) : RouteEntry :=
  { participant := s.participant
    status := if t.isOver && s.status == .open then .abandoned else s.status
    durationMs := s.duration?.map fun d => UInt64.ofNat d.millis }

theorem zip_route (t : RequestTrace) : t.steps.zip t.route = t.steps.map fun s => (s, t.line s) := by
  have both := List.zip_map' (f := id) (g := t.line) (l := t.steps)
  rwa [List.map_id] at both

def Shows (t : RequestTrace) (x : StepId) (status : StepStatus) : Prop :=
  (∃ s ∈ t.steps, s.stepId = x) ∧ ∀ e ∈ t.steps.zip t.route, e.1.stepId = x → e.2.status = status

instance (t : RequestTrace) (x : StepId) (status : StepStatus) : Decidable (t.Shows x status) :=
  inferInstanceAs (Decidable (_ ∧ _))

theorem shows_of_mem {t : RequestTrace} (once : ∀ s ∈ t.steps, ∀ a ∈ t.steps,
    s.stepId = a.stepId → s = a) {s : Step} (member : s ∈ t.steps) :
    t.Shows s.stepId (t.line s).status := by
  refine ⟨⟨s, member, rfl⟩, ?_⟩
  intro e shown same
  rw [zip_route] at shown
  obtain ⟨a, found, rfl⟩ := List.mem_map.1 shown
  rw [once a found s member same]

end RequestTrace

/-- An exchange that has begun: the identifiers of the coordinator's step and the recipient's. -/
structure Engagement where
  ours : Option StepId
  theirs : Option StepId
deriving DecidableEq

def Engagement.Owns (e : Engagement) (x : StepId) : Prop := e.ours = some x ∨ e.theirs = some x

/-- Ending an exchange is closing the steps that it owns. -/
theorem Engagement.isSome_closing? (e : Engagement) (ours theirs : Bool) (x : StepId) :
    (Recorder.closing? [(e.theirs, theirs), (e.ours, ours)] x).isSome = true ↔ e.Owns x := by
  rw [Recorder.closing?, Option.isSome_map, List.find?_isSome]
  simp [Engagement.Owns, or_comm]

inductive ExchangeAct where
  /-- The steps of the coordinator and of a recipient are opened with one write. -/
  | begins (coordinator recipient : String)
  /-- Both steps of the exchange that was the `n`-th to begin are closed with one write. -/
  | ends (n : Nat) (ours theirs : Bool)
  /-- A step that is over is added, wherever it starts. -/
  | records (participant : String) (startTime : Timestamp) (success : Bool)
  /-- The trace is read. -/
  | reads
  | passes (ms : Nat)

def ExchangeAct.Dated : ExchangeAct → Prop
  | .records _ startTime _ => startTime.inCalendar = true
  | _ => True

/-- The exchanges under one request, in the order in which they began, and which of them have
ended. -/
structure Engagements where
  journal : Journal
  begun : List Engagement
  ended : List Nat

namespace Recorder

def engage (r : Recorder) (id : RequestId) (p : Engagements) : ExchangeAct → Engagements
  | .begins coordinator recipient =>
    let (steps, j) := r.startSteps id [coordinator, recipient] p.journal
    { p with journal := j, begun := p.begun ++ [⟨steps[0]?.join, steps[1]?.join⟩] }
  | .ends n ours theirs =>
    match p.begun[n]? with
    | some e =>
      { p with
        journal := r.endSteps id [(e.theirs, theirs), (e.ours, ours)] p.journal
        ended := n :: p.ended }
    | none => p
  | .records participant startTime success =>
    { p with journal := (r.recordStep id participant startTime success p.journal).2 }
  | .reads => { p with journal := (r.trace id p.journal).2 }
  | .passes ms => { p with journal := p.journal.wait ms }

def engageAll (r : Recorder) (id : RequestId) (acts : List ExchangeAct) (j : Journal) : Engagements :=
  acts.foldl (r.engage id) ⟨j, [], []⟩

end Recorder

/-- A step is closed in both respects or in neither. -/
def Step.Whole (s : Step) : Prop := s.isOpen = s.success.isNone

theorem Step.Whole.close {s : Step} (whole : s.Whole) (now : Timestamp) (success : Bool) :
    (s.close now success).Whole := by
  unfold Step.close
  split
  · rfl
  · exact whole

/-- The steps of a request in a store from which nothing is lost. -/
structure Journal.WellKept (Sound : Journal → Prop) (id : RequestId) (j : Journal) : Prop where
  sound : Sound j
  named : ∀ t ∈ j.held id, t.requestId = id
  once : ((j.steps id).map Step.stepId).Nodup
  older : ∀ x ∈ (j.steps id).map Step.stepId, x.bits.toNat < j.stepCount
  whole : ∀ s ∈ j.steps id, s.Whole

theorem Recording.whole_opening (a : Recording) (j : Journal) : ∀ s ∈ a.opening j, s.Whole := by
  cases a with
  | start participants =>
    show ∀ s ∈ (j.openAll participants).1, s.Whole
    induction participants generalizing j with
    | nil => simp [Journal.openAll]
    | cons participant rest ih =>
      rw [Journal.openAll, List.forall_mem_cons]
      exact ⟨rfl, ih _⟩
  | finished participant startTime success =>
    intro s member
    rw [List.mem_singleton.1 member]
    rfl
  | close closes => simp [Recording.opening]

namespace Journal.WellKept

variable {r : Recorder} {Sound : Journal → Prop} {id : RequestId} {j k : Journal}

theorem fresh (sound : Sound j) (nothing : j.held id = none) : j.WellKept Sound id := by
  have empty := steps_of_none nothing
  refine ⟨sound, ?_, ?_, ?_, ?_⟩
  · simp [nothing]
  · simp [empty]
  · simp [empty]
  · simp [empty]

/-- A request that is left alone. -/
theorem carry (kept : j.WellKept Sound id) (sound : Sound k) (same : k.held id = j.held id)
    (counted : j.stepCount ≤ k.stepCount) : k.WellKept Sound id := by
  have steps := steps_congr same
  refine ⟨sound, same ▸ kept.named, steps ▸ kept.once, ?_, steps ▸ kept.whole⟩
  rw [steps]
  exact fun x member => Nat.lt_of_lt_of_le (kept.older x member) counted

theorem performed {a : Recording} {answer : List (Option StepId)} (kept : j.WellKept Sound id)
    (performed : r.Performed Sound id a j answer k) (few : j.stepCount + a.width ≤ twoTo 128) :
    k.WellKept Sound id := by
  rcases performed.outcome with dropped | done
  · exact kept.carry performed.sound dropped.held performed.counted
  · refine ⟨performed.sound, done.named, done.once kept.once kept.older few,
      done.older kept.older few, ?_⟩
    obtain ⟨found, steps, heeds⟩ := done.steps
    rw [steps]
    intro s member
    rcases List.mem_append.1 member with old | new
    · obtain ⟨s₀, member₀, heeded⟩ := exists_of_forall₂ heeds old
      rcases heeded.closed_or_eq with rfl | ⟨n, success, -, -, -, rfl⟩
      · exact kept.whole s member₀
      · exact (kept.whole s₀ member₀).close _ _
    · exact a.whole_opening j s new

/-- Steps are told apart by their identifiers. -/
theorem eq_of_stepId (kept : j.WellKept Sound id) {s s' : Step} (member : s ∈ j.steps id)
    (member' : s' ∈ j.steps id) (same : s.stepId = s'.stepId) : s = s' :=
  List.inj_on_of_nodup_map kept.once member member' same

end Journal.WellKept

/-- Exchanges beside what is stored of them. -/
structure Engagements.Stands (Sound : Journal → Prop) (id : RequestId) (p : Engagements) : Prop where
  kept : p.journal.WellKept Sound id
  /-- Exchanges have both of their steps, unless the request has no name. -/
  both : ∀ e ∈ p.begun, e.ours.isSome = !id.isBlank ∧ e.theirs.isSome = !id.isBlank
  past : ∀ n ∈ p.ended, n < p.begun.length
  apart : ∀ (m n : Nat) (e f : Engagement) (x : StepId), p.begun[m]? = some e →
    p.begun[n]? = some f → e.Owns x → f.Owns x → m = n
  /-- A step is open exactly as long as its exchange has not ended. -/
  owned : ∀ (n : Nat) (e : Engagement) (x : StepId), p.begun[n]? = some e → e.Owns x →
    ∃ s ∈ p.journal.steps id, s.stepId = x ∧ (s.isOpen = true ↔ n ∉ p.ended)

namespace Engagements.Stands

variable {r : Recorder} {Sound : Journal → Prop} {id : RequestId} {p : Engagements} {j k : Journal}

theorem fresh (sound : Sound j) (nothing : j.held id = none) :
    Engagements.Stands Sound id ⟨j, [], []⟩ := by
  refine ⟨.fresh sound nothing, ?_, ?_, ?_, ?_⟩
  · simp
  · simp
  · simp
  · simp

/-- Steps that are over are added, or nothing is. -/
theorem extended (stands : p.Stands Sound id) (kept : k.WellKept Sound id)
    (old : ∀ s ∈ p.journal.steps id, s ∈ k.steps id) :
    Engagements.Stands Sound id { p with journal := k } := by
  refine ⟨kept, stands.both, stands.past, stands.apart, ?_⟩
  intro n e x begun owns
  obtain ⟨s, member, named⟩ := stands.owned n e x begun owns
  exact ⟨s, old s member, named⟩

/-- The identifiers of an exchange are those of steps that are stored. -/
theorem stored (stands : p.Stands Sound id) {n : Nat} {e : Engagement} {x : StepId}
    (begun : p.begun[n]? = some e) (owns : e.Owns x) :
    x ∈ (p.journal.steps id).map Step.stepId := by
  obtain ⟨s, member, same, -⟩ := stands.owned n e x begun owns
  exact same ▸ List.mem_map_of_mem member

theorem named_of_owns (stands : p.Stands Sound id) {n : Nat} {e : Engagement} {x : StepId}
    (begun : p.begun[n]? = some e) (owns : e.Owns x) : id.isBlank = false := by
  obtain ⟨ours, theirs⟩ := stands.both e (List.mem_of_getElem? begun)
  rcases owns with own | own
  · rw [own] at ours
    simpa using ours
  · rw [own] at theirs
    simpa using theirs

/-- One more exchange begins, whose steps are open and have not been there before. -/
theorem joined (stands : p.Stands Sound id) (kept : k.WellKept Sound id)
    (old : ∀ s ∈ p.journal.steps id, s ∈ k.steps id) {e : Engagement}
    (both : e.ours.isSome = !id.isBlank ∧ e.theirs.isSome = !id.isBlank)
    (opened : ∀ x, e.Owns x → x ∉ (p.journal.steps id).map Step.stepId ∧
      ∃ s ∈ k.steps id, s.stepId = x ∧ s.isOpen = true) :
    Engagements.Stands Sound id { p with journal := k, begun := p.begun ++ [e] } := by
  have listed {n : Nat} {f : Engagement} (begun : (p.begun ++ [e])[n]? = some f) :
      p.begun[n]? = some f ∨ n = p.begun.length ∧ f = e := by
    rcases Nat.lt_trichotomy n p.begun.length with early | last | late
    · rw [List.getElem?_append_left early] at begun
      exact Or.inl begun
    · rw [last, List.getElem?_concat_length] at begun
      exact Or.inr ⟨last, (Option.some.inj begun).symm⟩
    · rw [List.getElem?_eq_none (by simpa using Nat.succ_le_of_lt late)] at begun
      cases begun
  refine ⟨kept, ?_, ?_, ?_, ?_⟩
  · intro f member
    rcases List.mem_append.1 member with earlier | last
    · exact stands.both f earlier
    · exact List.mem_singleton.1 last ▸ both
  · intro n ended
    rw [List.length_append]
    exact Nat.lt_add_right _ (stands.past n ended)
  · intro m n f g x first second owns owns'
    rcases listed first with earlier | ⟨last, own⟩ <;>
      rcases listed second with earlier' | ⟨last', own'⟩
    · exact stands.apart m n f g x earlier earlier' owns owns'
    · exact absurd (stands.stored earlier owns) (opened x (own' ▸ owns')).1
    · exact absurd (stands.stored earlier' owns') (opened x (own ▸ owns)).1
    · exact last.trans last'.symm
  · intro n f x begun owns
    rcases listed begun with begun | ⟨rfl, rfl⟩
    · obtain ⟨s, member, named⟩ := stands.owned n f x begun owns
      exact ⟨s, old s member, named⟩
    · obtain ⟨-, s, member, same, isOpen⟩ := opened x owns
      exact ⟨s, member, same, iff_of_true isOpen fun ended =>
        Nat.lt_irrefl _ (stands.past _ ended)⟩

/-- An exchange begins: its steps are opened behind those that are there, unless there is no
name. -/
theorem begins (stands : p.Stands Sound id) (retains : r.Retains Sound)
    (healthy : ¬ r.Falters Sound) (few : p.journal.stepCount + 2 ≤ twoTo 128)
    (coordinator recipient : String) :
    (r.engage id p (.begins coordinator recipient)).Stands Sound id := by
  dsimp only [Recorder.engage]
  cases blank : id.isBlank with
  | true =>
    rw [Recorder.startSteps_of_blank blank]
    refine stands.joined stands.kept (fun _ member => member) ?_ ?_
    · rw [blank]
      exact ⟨rfl, rfl⟩
    · intro x owns
      rcases owns with ours | theirs
      · cases ours
      · cases theirs
  | false =>
    have performed := Recorder.perform_spec retains stands.kept.sound stands.kept.named
      stands.kept.once (.start [coordinator, recipient])
    have done := performed.done healthy blank
    have steps := done.steps.eq_append rfl
    have kept := stands.kept.performed performed few
    unfold Recorder.startSteps
    rw [done.answer]
    refine stands.joined kept ?_ ?_ ?_
    · rw [steps]
      exact fun _ member => List.mem_append_left _ member
    · rw [blank]
      exact ⟨rfl, rfl⟩
    · intro x owns
      have new : ∃ s ∈ (p.journal.openAll [coordinator, recipient]).1, s.stepId = x ∧
          s.isOpen = true := by
        rcases owns with ours | theirs
        · exact ⟨_, List.mem_cons_self, Option.some.inj ours, rfl⟩
        · exact ⟨_, List.mem_cons_of_mem _ List.mem_cons_self, Option.some.inj theirs, rfl⟩
      obtain ⟨s, member, rfl, isOpen⟩ := new
      refine ⟨fun earlier => ?_, s, steps ▸ List.mem_append_right _ member, rfl, isOpen⟩
      have fresh : s.stepId ∈ p.journal.freshIds 2 :=
        Journal.stepIds_openAll [coordinator, recipient] p.journal ▸ List.mem_map_of_mem member
      exact Nat.lt_irrefl _ (Nat.lt_of_lt_of_le (stands.kept.older _ earlier)
        (Recorder.mem_freshIds few fresh).1)

/-- One exchange ends: its steps are closed, and those of the others stay as they are. -/
theorem ends (stands : p.Stands Sound id) (retains : r.Retains Sound)
    (healthy : ¬ r.Falters Sound) (few : p.journal.stepCount ≤ twoTo 128) (n : Nat)
    (ours theirs : Bool) : (r.engage id p (.ends n ours theirs)).Stands Sound id := by
  dsimp only [Recorder.engage]
  rcases begun : p.begun[n]? with _ | e
  · exact stands
  · have performed := Recorder.perform_spec retains stands.kept.sound stands.kept.named
      stands.kept.once (.close [(e.theirs, theirs), (e.ours, ours)])
    refine ⟨stands.kept.performed performed few, stands.both, ?_, stands.apart, ?_⟩
    · intro m ended
      rcases List.mem_cons.1 ended with rfl | earlier
      · exact (List.getElem?_eq_some_iff.1 begun).1
      · exact stands.past m earlier
    · intro m f x begun' owns
      obtain ⟨s, member, same, isOpen⟩ := stands.owned m f x begun' owns
      have answers := performed.answers (stands.named_of_owns begun' owns)
      obtain ⟨s', member', answer⟩ := exists_of_forall₂ answers.flip member
      have answer : s.Answers _ _ s' := answer
      refine ⟨s', member', answer.stepId.trans same, ?_⟩
      -- the close names the step exactly if it belongs to the exchange that ends
      have due := e.isSome_closing? ours theirs s.stepId
      rw [same] at answer due
      rw [List.mem_cons, not_or]
      by_cases own : e.Owns x
      · obtain ⟨b, named⟩ := Option.isSome_iff_exists.1 (due.2 own)
        have one : m = n := stands.apart m n f e x begun' begun owns own
        rcases answer.hit b named with ⟨now, closed⟩ | ⟨falters, -⟩
        · rw [closed, Step.isOpen_close]
          exact iff_of_false Bool.false_ne_true fun both => both.1 one
        · exact absurd falters healthy
      · have unnamed := Option.not_isSome_iff_eq_none.1 (mt due.1 own)
        have other : m ≠ n := by
          intro one
          rw [one, begun] at begun'
          exact own (Option.some.inj begun' ▸ owns)
        rw [answer.miss unnamed, isOpen]
        exact (and_iff_right other).symm

theorem records (stands : p.Stands Sound id) (retains : r.Retains Sound)
    (few : p.journal.stepCount + 1 ≤ twoTo 128) (participant : String) {startTime : Timestamp}
    (dated : startTime.inCalendar = true) (success : Bool) :
    (r.engage id p (.records participant startTime success)).Stands Sound id := by
  have performed := Recorder.perform_spec retains stands.kept.sound stands.kept.named
    stands.kept.once (.finished dated participant success)
  refine stands.extended (stands.kept.performed performed few) ?_
  intro s member
  show s ∈ (r.perform id (.finished participant startTime success) p.journal).2.steps id
  rcases performed.outcome with dropped | done
  · rw [Journal.steps_congr dropped.held]
    exact member
  · rw [done.steps.eq_append rfl]
    exact List.mem_append_left _ member

theorem reads (stands : p.Stands Sound id) (retains : r.Retains Sound) :
    (r.engage id p .reads).Stands Sound id := by
  dsimp only [Recorder.engage]
  rw [Recorder.snd_trace]
  obtain ⟨sound, same, -⟩ := retains.load stands.kept.sound id
  have counted := (Recorder.load_touches r id p.journal).stepCount
  refine stands.extended (stands.kept.carry sound (congrFun same id) (Nat.le_of_eq counted.symm)) ?_
  rw [Journal.steps_congr (congrFun same id)]
  exact fun _ member => member

theorem passes (stands : p.Stands Sound id) (retains : r.Retains Sound) (ms : Nat) :
    (r.engage id p (.passes ms)).Stands Sound id := by
  obtain ⟨sound, same⟩ := retains.pass (k := p.journal.wait ms) stands.kept.sound rfl
    (Clock.onward_wait _ _)
  refine stands.extended (stands.kept.carry sound (congrFun same id) (Nat.le_refl _)) ?_
  rw [Journal.steps_congr (congrFun same id)]
  exact fun _ member => member

/-- Whatever is done next. -/
theorem engage (stands : p.Stands Sound id) (retains : r.Retains Sound)
    (healthy : ¬ r.Falters Sound) (few : p.journal.stepCount + 2 ≤ twoTo 128) {act : ExchangeAct}
    (dated : act.Dated) :
    (r.engage id p act).Stands Sound id ∧
      (r.engage id p act).journal.stepCount ≤ p.journal.stepCount + 2 := by
  have spec {a : Recording} (dated : a.Dated) :=
    Recorder.perform_spec retains stands.kept.sound stands.kept.named stands.kept.once dated
  cases act with
  | begins coordinator recipient =>
    exact ⟨stands.begins retains healthy few coordinator recipient,
      (spec (.start [coordinator, recipient])).most⟩
  | ends n ours theirs =>
    refine ⟨stands.ends retains healthy (by omega) n ours theirs, ?_⟩
    dsimp only [Recorder.engage]
    split
    · exact Nat.le_add_right_of_le (spec (.close _)).most
    · exact Nat.le_add_right _ _
  | records participant startTime success =>
    refine ⟨stands.records retains (by omega) participant dated success, ?_⟩
    exact Nat.le_succ_of_le (spec (.finished dated participant success)).most
  | reads =>
    refine ⟨stands.reads retains, ?_⟩
    dsimp only [Recorder.engage]
    rw [Recorder.snd_trace, (Recorder.load_touches r id p.journal).stepCount]
    exact Nat.le_add_right _ _
  | passes ms => exact ⟨stands.passes retains ms, Nat.le_add_right _ _⟩

theorem foldl {acts : List ExchangeAct} (dated : ∀ act ∈ acts, act.Dated)
    (stands : p.Stands Sound id) (retains : r.Retains Sound) (healthy : ¬ r.Falters Sound)
    (few : p.journal.stepCount + 2 * acts.length ≤ twoTo 128) :
    (acts.foldl (r.engage id) p).Stands Sound id := by
  induction acts generalizing p with
  | nil => exact stands
  | cons act rest ih =>
    rw [List.length_cons] at few
    obtain ⟨datedFirst, datedRest⟩ := List.forall_mem_cons.1 dated
    obtain ⟨next, most⟩ := stands.engage retains healthy (by omega) datedFirst
    exact ih datedRest next (by omega)

/-- How a step of an exchange that goes on is shown depends on the first step of the trace alone. -/
theorem shows (stands : p.Stands Sound id) {t : RequestTrace}
    (same : ∀ s, s ∈ t.steps ↔ s ∈ p.journal.steps id) {n : Nat} {e : Engagement} {x : StepId}
    (begun : p.begun[n]? = some e) (going : n ∉ p.ended) (owns : e.Owns x) :
    t.Shows x (if t.isOver then .abandoned else .open) := by
  obtain ⟨s, member, rfl, isOpen⟩ := stands.owned n e x begun owns
  have once : ∀ s ∈ t.steps, ∀ a ∈ t.steps, s.stepId = a.stepId → s = a := by
    intro s member a member'
    exact stands.kept.eq_of_stepId ((same s).1 member) ((same a).1 member')
  have status : s.status = .open := by
    have unclosed : s.success = none :=
      Option.isNone_iff_eq_none.1 ((stands.kept.whole s member).symm.trans (isOpen.2 going))
    rw [Step.status, unclosed]
  have shows := RequestTrace.shows_of_mem once ((same s).2 member)
  rw [RequestTrace.line, status] at shows
  simpa using shows

/-- A step of an exchange is open as long as the exchange goes on. -/
theorem isOpen_iff (stands : p.Stands Sound id) {n : Nat} {f : Engagement} {s : Step}
    (begun : p.begun[n]? = some f) (member : s ∈ p.journal.steps id) (owns : f.Owns s.stepId) :
    s.isOpen = true ↔ n ∉ p.ended := by
  obtain ⟨s', member', own, isOpen⟩ := stands.owned n f s.stepId begun owns
  rw [← stands.kept.eq_of_stepId member' member own]
  exact isOpen

end Engagements.Stands

/--
Over a store that neither fails nor loses anything, whatever exchanges begin and end under a request
in whatever order, and whatever steps that are over are added: the steps of an exchange that goes on
are in the trace. They are shown as open as long as the first step of the trace is open, and when
that step belongs to an exchange they are shown as abandoned once that exchange has ended.
-/
theorem Recorder.first_exchange_decides {r : Recorder} {Sound : Journal → Prop} {id : RequestId}
    {j : Journal} (retains : r.Retains Sound) (healthy : ¬ r.Falters Sound) (sound : Sound j)
    (fresh : j.held id = none) {acts : List ExchangeAct} (dated : ∀ act ∈ acts, act.Dated)
    (few : j.stepCount + 2 * acts.length ≤ twoTo 128) :
    (∀ e ∈ (r.engageAll id acts j).begun,
      e.ours.isSome = !id.isBlank ∧ e.theirs.isSome = !id.isBlank) ∧
    ∀ (m : Nat) (e : Engagement) (x : StepId), (r.engageAll id acts j).begun[m]? = some e →
      m ∉ (r.engageAll id acts j).ended → e.Owns x →
      ∃ first rest, (r.trace id (r.engageAll id acts j).journal).1.steps = first :: rest ∧
        (first.isOpen = true →
          (r.trace id (r.engageAll id acts j).journal).1.Shows x .open) ∧
        ∀ (n : Nat) (f : Engagement), (r.engageAll id acts j).begun[n]? = some f →
          f.Owns first.stepId → (r.trace id (r.engageAll id acts j).journal).1.Shows x
            (if n ∈ (r.engageAll id acts j).ended then .abandoned else .open) := by
  have stands : (r.engageAll id acts j).Stands Sound id :=
    (Engagements.Stands.fresh sound fresh).foldl dated retains healthy few
  have read := trace_eq_sorted retains healthy stands.kept.sound stands.kept.named
  refine ⟨stands.both, ?_⟩
  intro m e x begun going owns
  have same (s : Step) : s ∈ (r.trace id (r.engageAll id acts j).journal).1.steps ↔
      s ∈ (r.engageAll id acts j).journal.steps id := by
    rw [read]
    exact RequestTrace.mem_sorted
  have shows := stands.shows same begun going owns
  generalize (r.trace id (r.engageAll id acts j).journal).1 = t at same shows ⊢
  rcases steps : t.steps with _ | ⟨first, rest⟩
  · obtain ⟨s, member, -⟩ := shows.1
    rw [steps] at member
    cases member
  · have finished : t.isOver = !first.isOpen := by rw [RequestTrace.isOver, steps]
    rw [finished] at shows
    refine ⟨first, rest, rfl, ?_, ?_⟩
    · intro isOpen
      rw [isOpen] at shows
      exact shows
    · intro n f begun' owns'
      have isOpen := stands.isOpen_iff begun' ((same first).1 (steps ▸ List.mem_cons_self)) owns'
      by_cases ended : n ∈ (r.engageAll id acts j).ended
      · rw [Bool.eq_false_iff.2 fun still => isOpen.1 still ended] at shows
        rw [if_pos ended]
        exact shows
      · rw [isOpen.2 ended] at shows
        rw [if_neg ended]
        exact shows

namespace Engagements

def rehearsal (acts : List ExchangeAct) : Engagements :=
  Coordinator.rehearsal.recorder.engageAll ⟨"r"⟩ acts (World.rehearsal []).journal

def traceRehearsal (acts : List ExchangeAct) : RequestTrace :=
  (Coordinator.rehearsal.recorder.trace ⟨"r"⟩ (rehearsal acts).journal).1

/-- Two exchanges begin and the second one ends, and while a third goes on the first one ends. -/
def actsRehearsal : List ExchangeAct :=
  [.begins "desk:exchange" "a", .begins "desk:exchange" "b", .passes 7, .ends 1 true true,
    .records "c" ⟨0, 0⟩ false, .reads, .begins "desk:exchange" "c", .ends 0 false false]

theorem dated_actsRehearsal : ∀ act ∈ actsRehearsal, act.Dated := by
  simp only [actsRehearsal, List.forall_mem_cons]
  refine ⟨trivial, trivial, trivial, trivial, ?_, trivial, trivial, trivial, ?_⟩
  · exact (by decide : (⟨0, 0⟩ : Timestamp).inCalendar = true)
  · exact fun act member => (List.not_mem_nil member).elim

/-- The steps of the third exchange are shown as open, and after the last act as abandoned. -/
theorem first_exchange_decides_rehearsal :
    (traceRehearsal (actsRehearsal.take 7)).Shows (Journal.stepId 5) .open ∧
      (traceRehearsal actsRehearsal).Shows (Journal.stepId 5) .abandoned := by
  have decides (acts : List ExchangeAct) (dated : ∀ act ∈ acts, act.Dated)
      (few : 0 + 2 * acts.length ≤ twoTo 128) :=
    Recorder.first_exchange_decides (Recorder.retains_healthy Coordinator.rehearsal.recorder)
      (Recorder.not_falters_healthy _) (World.healthy_rehearsal (by decide))
      (World.held_rehearsal [] ⟨"r"⟩) dated few
  constructor
  · obtain ⟨first, rest, steps, shown, -⟩ := (decides (actsRehearsal.take 7)
      (fun act member => dated_actsRehearsal act (List.mem_of_mem_take member)) (by decide)).2 2
      ⟨some (Journal.stepId 5), some (Journal.stepId 6)⟩ (Journal.stepId 5) (by decide +kernel)
      (by decide +kernel) (Or.inl rfl)
    have still : (traceRehearsal (actsRehearsal.take 7)).steps.head?.map Step.isOpen = some true := by
      decide +kernel
    have head : (traceRehearsal (actsRehearsal.take 7)).steps.head? = some first :=
      congrArg List.head? steps
    rw [head] at still
    exact shown (Option.some.inj still)
  · obtain ⟨first, rest, steps, -, shown⟩ := (decides actsRehearsal dated_actsRehearsal (by decide)).2 2
      ⟨some (Journal.stepId 5), some (Journal.stepId 6)⟩ (Journal.stepId 5) (by decide +kernel)
      (by decide +kernel) (Or.inl rfl)
    have own : (traceRehearsal actsRehearsal).steps.head?.map Step.stepId =
        some (Journal.stepId 0) := by decide +kernel
    have head : (traceRehearsal actsRehearsal).steps.head? = some first :=
      congrArg List.head? steps
    rw [head] at own
    have ended : 0 ∈ (Coordinator.rehearsal.recorder.engageAll ⟨"r"⟩ actsRehearsal
        (World.rehearsal []).journal).ended := by decide +kernel
    have decided := shown 0 ⟨some (Journal.stepId 0), some (Journal.stepId 1)⟩ (by decide +kernel)
      (Or.inl (congrArg some (Option.some.inj own).symm))
    rw [if_pos ended] at decided
    exact decided

/-- It is not only finished work that is shown as abandoned, though the store is healthy. -/
theorem unfinished_shown_as_abandoned :
    Coordinator.rehearsal.recorder.Healthy (World.rehearsal []).journal ∧
    (World.rehearsal []).clock.Forward ∧ (World.rehearsal []).journal.held ⟨"r"⟩ = none ∧
    ¬ ∀ (acts : List ExchangeAct) (m : Nat) (e : Engagement) (x : StepId),
      (rehearsal acts).begun[m]? = some e → m ∉ (rehearsal acts).ended → e.Owns x →
      (traceRehearsal acts).Shows x .open := by
  refine ⟨World.healthy_rehearsal (by decide), World.forward_rehearsal _, World.held_rehearsal _ _, ?_⟩
  intro finished
  -- the second exchange begins when the first one has ended
  have shown := finished
    [.begins "desk:exchange" "a", .ends 0 true true, .begins "desk:exchange" "b"] 1
    ⟨some (Journal.stepId 2), some (Journal.stepId 3)⟩ (Journal.stepId 2) (by decide +kernel)
    (by decide +kernel) (Or.inl rfl)
  revert shown
  decide +kernel

end Engagements

end RollCall
