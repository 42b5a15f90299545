import RollCall.Proofs.Streaming
import RollCall.Proofs.Tally

set_option autoImplicit false

/-!
Where each recipient stands at the end of a fan-out. A slot says of its recipient what the outcome
of the reports says, and so does its step.
-/
namespace RollCall

theorem RecipientMap.isEmpty_iff {α : Type} (m : RecipientMap α) :
    m.isEmpty = true ↔ ∀ r, r ∉ m.keys := by
  rw [RecipientMap.isEmpty, List.isEmpty_iff, RecipientMap.keys]
  constructor
  · intro empty r
    rw [empty]
    exact List.not_mem_nil
  · intro nobody
    cases entries : m.entries with
    | nil => rfl
    | cons e rest => exact absurd (by rw [entries]; exact List.mem_cons_self) (nobody e.1)

namespace FanOut

/-- The slots hold exactly the reports that have been made. -/
structure Noted (f : FanOut) (rs : List Resolution) : Prop where
  once : (rs.map Resolution.sender).Nodup
  owed : ∀ r ∈ rs, r.sender ∉ f.missing
  report : ∀ p ∈ f.slots, ∀ result, p.report = some result ↔ ⟨p.recipient, result⟩ ∈ rs

variable {f f' : FanOut} {w w' : World} {log : List Call} {r : Option Resolution}
  {rs ss : List Resolution}

theorem noted_start (c : Coordinator) (recipients : List RecipientId) (request : Request)
    (wait : Nat) (w : World) : (start c recipients request wait w).1.Noted [] := by
  refine ⟨List.nodup_nil, by simp, ?_⟩
  intro p member result
  obtain ⟨q, -, rfl⟩ := List.mem_map.1 member
  simp

theorem Noted.fill (noted : f.Noted rs) {q : RecipientId} (pending : q ∈ f.missing)
    {result : Except RemoteError String} {g : FanOut} (filled : g.slots = fill q result f.slots) :
    g.Noted (rs ++ [⟨q, result⟩]) := by
  have unheard : q ∉ rs.map Resolution.sender := by
    intro heard
    obtain ⟨r, member, rfl⟩ := List.mem_map.1 heard
    exact noted.owed r member pending
  refine ⟨?_, ?_, ?_⟩
  · rw [List.map_append, List.nodup_append]
    refine ⟨noted.once, List.nodup_singleton _, ?_⟩
    intro a heard b last same
    rw [List.map_singleton, List.mem_singleton] at last
    subst last
    exact unheard (same ▸ heard)
  · intro r member left
    rw [missing_fill filled, List.mem_filter, decide_eq_true_iff] at left
    rcases List.mem_append.1 member with earlier | last
    · exact noted.owed r earlier left.1
    · rw [List.mem_singleton.1 last] at left
      exact left.2 rfl
  · rw [filled]
    intro p member result'
    obtain ⟨p₀, listed, rfl⟩ := List.mem_map.1 member
    by_cases same : p₀.recipient = q
    · have silent : ⟨q, result'⟩ ∉ rs := fun heard => unheard (List.mem_map_of_mem heard)
      simp [same, silent, eq_comm]
    · simp [same, noted.report p₀ listed result']

theorem Step.noted (step : Step f w log r f' w') (noted : f.Noted rs) :
    f'.Noted (rs ++ r.toList) := by
  have same {g : FanOut} (slots : g.slots = f.slots) :
      g.Noted (rs ++ (none : Option Resolution).toList) := by
    rw [Option.toList_none, List.append_nil]
    have missing : g.missing = f.missing := by rw [FanOut.missing, FanOut.missing, slots]
    exact ⟨noted.once, missing ▸ noted.owed, slots ▸ noted.report⟩
  cases step with
  | refused setup pending =>
    rw [firstPending?_eq_head?] at pending
    exact noted.fill (List.mem_of_head? pending) rfl
  | cutOff awaits read => exact same rfl
  | idle awaits read => exact same rfl
  | broken awaits read => exact same rfl
  | ignored awaits read unknown => exact same rfl
  | reported awaits read known => exact noted.fill (mem_missing_of_pendingStep? known) rfl

theorem Run.noted (run : Run f w log ss f' w') (noted : f.Noted rs) : f'.Noted (rs ++ ss) := by
  induction run generalizing rs with
  | refl =>
    rw [List.append_nil]
    exact noted
  | step first _ ih =>
    have later := ih (first.noted noted)
    rwa [List.append_assoc] at later

theorem Noted.finish (noted : f.Noted rs) (w : World) : (f.finish w).1.Noted rs := by
  have slots := slots_finish f w
  have missing := missing_finish f w
  exact ⟨noted.once, missing ▸ noted.owed, slots ▸ noted.report⟩

theorem anyFailed_finish (f : FanOut) (w : World) : (f.finish w).1.anyFailed = f.anyFailed := by
  rw [anyFailed, slots_finish]
  rfl

/-- What a slot says of its recipient is what the outcome says. -/
structure Stands (o : BroadcastOutcome) (p : Slot) : Prop where
  succeeded : p.report.map Except.isOk = some true ↔ p.recipient ∈ o.succeeded.keys
  failed : p.report.map Except.isOk = some false ↔ p.recipient ∈ o.failed.keys
  missing : p.report.map Except.isOk = none ↔ p.recipient ∈ o.missing.keys

theorem Noted.stands (noted : f.Noted rs) (once : (f.slots.map Slot.recipient).Nodup)
    (id : RequestId) : ∀ p ∈ f.slots, Stands (.ofReports id rs f.missing) p := by
  intro p member
  have report := noted.report p member
  refine ⟨?_, ?_, ?_⟩
  · rw [BroadcastOutcome.mem_succeeded_ofReports noted.once, Option.map_eq_some_iff]
    constructor
    · intro answered
      obtain ⟨_ | text, told, ok⟩ := answered
      · cases ok
      · exact ⟨text, (report _).1 told⟩
    · intro answered
      obtain ⟨text, reported⟩ := answered
      exact ⟨.ok text, (report _).2 reported, rfl⟩
  · rw [BroadcastOutcome.mem_failed_ofReports noted.once, Option.map_eq_some_iff]
    constructor
    · intro broke
      obtain ⟨e | _, told, ok⟩ := broke
      · exact ⟨e, (report _).1 told⟩
      · cases ok
    · intro broke
      obtain ⟨e, reported⟩ := broke
      exact ⟨.error e, (report _).2 reported, rfl⟩
  · rw [BroadcastOutcome.mem_missing_ofReports, Option.map_eq_none_iff]
    constructor
    · intro unheard
      exact List.mem_map.2 ⟨p, List.mem_filter.2 ⟨member, by rw [unheard]; rfl⟩, rfl⟩
    · intro owed
      obtain ⟨p', silent, same⟩ := List.mem_map.1 owed
      obtain ⟨listed, unheard⟩ := List.mem_filter.1 silent
      rw [← List.inj_on_of_nodup_map once listed member same]
      exact Option.isNone_iff_eq_none.1 unheard

/-- The coordinator's step is closed with whether the outcome is complete. -/
theorem Noted.complete (noted : f.Noted rs) (owed : ∀ r ∈ rs, r.sender ∈ f.slots.map Slot.recipient)
    (id : RequestId) :
    BroadcastOutcome.isComplete (.ofReports id rs f.missing) = (f.missing.isEmpty && !f.anyFailed) := by
  have failed : (BroadcastOutcome.ofReports id rs f.missing).failed.isEmpty = !f.anyFailed := by
    rw [Bool.eq_iff_iff, RecipientMap.isEmpty_iff, Bool.not_eq_true', anyFailed, List.any_eq_false]
    constructor
    · intro nobody p member broken
      obtain ⟨result, told, bad⟩ := (Option.any_eq_true _ _).1 broken
      cases result with
      | ok text => cases bad
      | error e =>
        exact nobody p.recipient ((BroadcastOutcome.mem_failed_ofReports noted.once _).2
          ⟨e, (noted.report p member _).1 told⟩)
    · intro clean q broke
      obtain ⟨e, reported⟩ := (BroadcastOutcome.mem_failed_ofReports noted.once q).1 broke
      obtain ⟨p, member, rfl⟩ := List.mem_map.1 (owed _ reported)
      refine clean p member ?_
      rw [(noted.report p member (.error e)).2 reported]
      rfl
  have missing : (BroadcastOutcome.ofReports id rs f.missing).missing.isEmpty = f.missing.isEmpty := by
    rw [Bool.eq_iff_iff, RecipientMap.isEmpty_iff, List.isEmpty_iff, List.eq_nil_iff_forall_not_mem]
    exact forall_congr' fun q => not_congr (BroadcastOutcome.mem_missing_ofReports q)
  rw [BroadcastOutcome.isComplete, failed, missing, Bool.and_comm]

end FanOut

namespace BroadcastOutcome

/-- Reports do not change what request an outcome is of. -/
theorem requestId_ofReports (id : RequestId) (rs : List Resolution) (missing : List RecipientId) :
    (ofReports id rs missing).requestId = id := by
  have kept (o : BroadcastOutcome) : (rs.foldl add o).requestId = o.requestId := by
    induction rs generalizing o with
    | nil => rfl
    | cons r rest ih =>
      rw [List.foldl_cons, ih]
      obtain ⟨sender, _ | _⟩ := r <;> rfl
  exact kept (empty id)

/-- A recipient's step is closed as is due to one who stands where the recipient does. -/
structure Follows (may : Prop) (o : BroadcastOutcome) (q : RecipientId) (due : Option Bool)
    (s : Step) : Prop where
  participant : s.participant = q.text
  tells : s.Tells may due
  succeeded : due = some true ↔ q ∈ o.succeeded.keys
  failed : due = some false ↔ q ∈ o.failed.keys
  missing : due = none ↔ q ∈ o.missing.keys

/-- The steps of a broadcast: none if the store failed, or the coordinator's and the recipients'. -/
inductive Followed (may : Prop) (o : BroadcastOutcome) (label : String) (rs : List RecipientId) :
    List Step → Prop
  | nothing (lost : may) : Followed may o label rs []
  | recorded {s : Step} {steps : List Step} (named : s.participant = label)
    (tells : s.Tells may (some o.isComplete))
    (recipients : List.Forall₂ (fun q t => ∃ due, Follows may o q due t) rs steps) :
    Followed may o label rs (s :: steps)

end BroadcastOutcome

namespace FanOut

variable {c : Coordinator} {Sound : Journal → Prop} {f : FanOut} {j : Journal} {rs : List Resolution}

/-- At the end the steps follow the outcome. -/
theorem Chronicle.followed
    (chronicle : f.Chronicle c Sound (some (f.missing.isEmpty && !f.anyFailed)) j)
    (noted : f.Noted rs) (owed : ∀ r ∈ rs, r.sender ∈ f.slots.map Slot.recipient) (id : RequestId) :
    BroadcastOutcome.Followed (c.recorder.Falters Sound) (.ofReports id rs f.missing) c.label
      (f.slots.map Slot.recipient) (j.steps f.requestId) := by
  have stands := noted.stands chronicle.once id
  have tallied := chronicle.tallied
  have own := chronicle.own
  subst own
  generalize j.steps f.requestId = stored at tallied
  cases tallied with
  | nothing lost coordinator slots => exact .nothing lost
  | recorded label coordinator tells slots =>
    refine .recorded label ?_ ?_
    · rw [noted.complete owed]
      exact tells
    · rw [List.forall₂_map_left_iff]
      refine ((List.forall₂_and_left _ _).2 ⟨stands, slots⟩).imp ?_
      intro p s both
      obtain ⟨stand, tallies⟩ := both
      exact ⟨_, tallies.participant, tallies.tells, stand.succeeded, stand.failed, stand.missing⟩

end FanOut

namespace Coordinator

/-- What is stored of a request once its broadcast is over, beside the outcome. -/
structure Concludes (c : Coordinator) (Sound : Journal → Prop) (recipients : List RecipientId)
    (o : BroadcastOutcome) (j : Journal) : Prop where
  sound : Sound j
  orderly : j.Orderly o.requestId
  ordered : ((j.steps o.requestId).map Step.startTime).Pairwise (· ≤ ·)
  followed : o.Followed (c.recorder.Falters Sound) c.label (distinct recipients)
    (j.steps o.requestId)

variable {c : Coordinator} {Sound : Journal → Prop} {recipients : List RecipientId}
  {f : FanOut} {j : Journal} {rs : List Resolution}

/-- A fan-out that is finished, all of whose reports are known. -/
theorem concludes_of_chronicle
    (chronicle : f.Chronicle c Sound (some (f.missing.isEmpty && !f.anyFailed)) j)
    (noted : f.Noted rs) (owed : ∀ r ∈ rs, r.sender ∈ f.slots.map Slot.recipient)
    (listed : f.slots.map Slot.recipient = distinct recipients) :
    c.Concludes Sound recipients (.ofReports f.requestId rs f.missing) j := by
  have same := BroadcastOutcome.requestId_ofReports f.requestId rs f.missing
  refine ⟨chronicle.sound, ?_, ?_, ?_⟩
  · rw [same]
    exact chronicle.orderly
  · rw [same]
    exact chronicle.ordered
  · rw [same, ← listed]
    exact chronicle.followed noted owed f.requestId

end Coordinator

namespace FanOut

/-- A fan-out under way to distinct recipients, with the reports that there have been. -/
structure Underway (c : Coordinator) (Sound : Journal → Prop) (recipients : List RecipientId)
    (id : RequestId) (rs : List Resolution) (f : FanOut) (j : Journal) : Prop where
  requestId : f.requestId = id
  listed : f.slots.map Slot.recipient = distinct recipients
  chronicle : f.Chronicle c Sound none j
  noted : f.Noted rs
  owed : ∀ r ∈ rs, r.sender ∈ distinct recipients

variable {c : Coordinator} {Sound : Journal → Prop} {recipients : List RecipientId} {id : RequestId}
  {f f' : FanOut} {w w' : World} {j k : Journal} {log : List Call} {rs ss : List Resolution}

/-- A fan-out under a fresh request, before any report. -/
theorem underway_start (retains : c.recorder.Retains Sound) (request : Request)
    (named : request.requestId.isBlank = false) (wait : Nat) (sound : Sound w.journal)
    (forward : w.clock.Forward) (fresh : w.journal.held request.requestId = none)
    (few : w.journal.stepCount + ((distinct recipients).length + 1) ≤ twoTo 128) :
    Underway c Sound recipients request.requestId [] (start c (distinct recipients) request wait w).1
      (start c (distinct recipients) request wait w).2.journal :=
  ⟨rfl, recipients_start _ _ _ _ _,
    chronicle_start retains (distinct_nodup recipients) request named wait sound forward fresh few,
    noted_start _ _ _ _ _, by simp⟩

theorem Underway.spared (underway : f.Underway c Sound recipients id rs j)
    (spares : j.Spares Sound id k) : f.Underway c Sound recipients id rs k := by
  obtain ⟨rfl, listed, chronicle, noted, owed⟩ := underway
  exact ⟨rfl, listed, chronicle.spared spares f.channel f.notes, noted, owed⟩

theorem Underway.run (underway : f.Underway c Sound recipients id rs w.journal)
    (retains : c.recorder.Retains Sound) (run : Run f w log ss f' w') :
    f'.Underway c Sound recipients id (rs ++ ss) w'.journal := by
  obtain ⟨requestId, listed, chronicle, noted, owed⟩ := underway
  have same := run.sameCall
  obtain ⟨-, pending, -⟩ := run.missing
  refine ⟨same.requestId.trans requestId, same.recipients.trans listed,
    run.chronicle retains chronicle, run.noted noted, ?_⟩
  intro r member
  rcases List.mem_append.1 member with earlier | later
  · exact owed r earlier
  · exact listed ▸ f.missing_sublist.subset (pending r later)

/-- What is stored once the fan-out is finished, also after other things have been stored. -/
theorem Underway.concludes (underway : f.Underway c Sound recipients id rs w.journal)
    (retains : c.recorder.Retains Sound) (spares : (f.finish w).2.journal.Spares Sound id k) :
    c.Concludes Sound recipients (.ofReports id rs f.missing) k := by
  obtain ⟨rfl, listed, chronicle, noted, owed⟩ := underway
  have finished := chronicle.finish retains
  rw [← missing_finish f w, ← anyFailed_finish f w] at finished
  have listedLater : (f.finish w).1.slots.map Slot.recipient = distinct recipients := by
    rw [slots_finish]
    exact listed
  have requestId := requestId_finish f w
  rw [← requestId] at spares
  have concludes := Coordinator.concludes_of_chronicle
    (finished.spared spares (f.finish w).1.channel (f.finish w).1.notes) (noted.finish w)
    (listedLater ▸ owed) listedLater
  rw [requestId, missing_finish] at concludes
  exact concludes

end FanOut

namespace Coordinator

variable {c : Coordinator} {Sound : Journal → Prop} {recipients : List RecipientId}

/-- A broadcast under a fresh request leaves steps that follow its outcome. -/
theorem broadcast_concludes (retains : c.recorder.Retains Sound) {payload : Json} {deadline : Nat}
    (accepted : broadcastRefusal? recipients payload deadline = none) {w : World}
    (sound : Sound w.journal) (forward : w.clock.Forward)
    (fresh : w.journal.held (RequestId.generated w.requestCount) = none)
    (few : w.journal.stepCount + ((distinct recipients).length + 1) ≤ twoTo 128) :
    ∃ o w', c.broadcast recipients payload deadline w = (.ok o, w') ∧
      c.Concludes Sound recipients o w'.journal := by
  rcases started : c.setOut recipients payload deadline w with ⟨f, w'⟩
  rcases gathered : f.gather (f.slots.length + 1) w' with ⟨reports, f', w''⟩
  obtain ⟨log, run⟩ := FanOut.gather_run (f.slots.length + 1) f w'
  rw [gathered] at run
  have outset := FanOut.underway_start (w := (w.newRequest payload).2) retains
    (w.newRequest payload).1 (RequestId.isBlank_generated w.requestCount) deadline sound forward
    fresh few
  rw [← setOut_eq, started] at outset
  have underway := outset.run retains run
  have concludes := underway.concludes retains (.refl _ _ _)
  rw [← underway.requestId] at concludes
  exact ⟨_, _, broadcast_eq c w accepted started gathered, concludes⟩

end Coordinator

end RollCall
