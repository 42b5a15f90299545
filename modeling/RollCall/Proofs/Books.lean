import RollCall.Proofs.FanOut
import RollCall.Proofs.Mistakes

set_option autoImplicit false

/-!
The books of a fan-out: who is asked, under which step each of them is recorded, who has reported
and whether somebody reported a failure. To enter a report changes the last two, and the books stay
in order as long as it is that of a recipient who has not reported.
-/
namespace RollCall

namespace RecipientMap

variable {α : Type}

theorem mem_keys_insert (m : RecipientMap α) (r s : RecipientId) (a : α) :
    s ∈ (m.insert r a).keys ↔ s = r ∨ s ∈ m.keys := by
  rw [mem_keys_iff, mem_keys_iff, get?_insert]
  by_cases same : s = r
  · simp [same]
  · simp [same]

theorem get?_ofList {es : List (RecipientId × α)} (once : (es.map Prod.fst).Nodup)
    (r : RecipientId) : (ofList es).get? r = List.lookup r es := by
  rw [ofList, get?_foldl_insert once, get?_empty, Option.or_none]

/-- A value is looked up where it was put. -/
theorem get?_ofList_of_mem {es : List (RecipientId × α)} (once : (es.map Prod.fst).Nodup)
    {r : RecipientId} {a : α} (entry : (r, a) ∈ es) : (ofList es).get? r = some a := by
  rw [get?_ofList once]
  exact (mem_iff_lookup once r a).1 entry

@[simp] theorem contains_iff (m : RecipientMap α) (r : RecipientId) :
    m.contains r = true ↔ r ∈ m.keys := by
  rw [contains, Option.isSome_iff_exists, mem_keys_iff]

theorem size_insert (m : RecipientMap α) {r : RecipientId} (new : r ∉ m.keys) (a : α) :
    (m.insert r a).size = m.size + 1 := by
  have grown : (m.insert r a).keys.toFinset = Insert.insert r m.keys.toFinset := by
    ext s
    rw [Finset.mem_insert, List.mem_toFinset, List.mem_toFinset, mem_keys_insert]
  rw [size_eq_card, size_eq_card, grown, Finset.card_insert_of_notMem (mt List.mem_toFinset.1 new)]

theorem mem_keys_ofList {es : List (RecipientId × α)} (once : (es.map Prod.fst).Nodup)
    (r : RecipientId) : r ∈ (ofList es).keys ↔ r ∈ es.map Prod.fst := by
  rw [mem_keys_iff, get?_ofList once]
  constructor
  · intro held
    obtain ⟨a, found⟩ := held
    exact List.mem_map_of_mem (f := Prod.fst) ((mem_iff_lookup once r a).2 found)
  · intro listed
    obtain ⟨⟨s, a⟩, entry, rfl⟩ := List.mem_map.1 listed
    exact ⟨a, (mem_iff_lookup once s a).1 entry⟩

end RecipientMap

/-- Sets with the same members are the same. -/
theorem RecipientSet.ext_keys {m n : RecipientSet} (same : ∀ r, r ∈ m.keys ↔ r ∈ n.keys) :
    m = n := by
  refine RecipientMap.ext_get? fun r => ?_
  have both := same r
  rw [RecipientMap.mem_keys_iff, RecipientMap.mem_keys_iff] at both
  cases left : m.get? r with
  | none =>
    cases right : n.get? r with
    | none => rfl
    | some u => simp [left, right] at both
  | some u =>
    cases right : n.get? r with
    | none => simp [left, right] at both
    | some v => rfl

namespace Recorder

/-- These steps were opened at one journal, and appended to the trace of a request by a write that
went through and left the other. -/
structure Opened (r : Recorder) (id : RequestId) (steps : List Step) (j k : Journal) : Prop where
  opened : (j.openAll (steps.map Step.participant)).1 = steps
  stored : ∃ found l, r.load id (j.openAll (steps.map Step.participant)).2 = (.ok found, l) ∧
    r.save ((found.getD (RequestTrace.empty id)).append steps) l = (.ok (), k)

/-- Either nobody is given a step, or everybody the one that was opened under its label. -/
theorem startSteps_answer (r : Recorder) (id : RequestId) (participants : List String)
    (j : Journal) :
    (r.startSteps id participants j).1 = participants.map (fun _ => none) ∨
      ∃ steps : List Step, steps.map Step.participant = participants ∧
        r.Opened id steps j (r.startSteps id participants j).2 ∧
        (r.startSteps id participants j).1 = steps.map fun s => some s.stepId := by
  have nobody : (j.openAll participants).1.map (fun _ => (none : Option StepId)) =
      participants.map fun _ => none := by
    rw [List.map_const', List.map_const', Journal.length_openAll]
  by_cases blank : id.isBlank = true
  · rw [startSteps_of_blank blank]
    exact .inl rfl
  · have named := Journal.participants_openAll participants j
    have started : r.startSteps id participants j =
        r.commit (r.draftSteps id (j.openAll participants).1 (j.openAll participants).2).1
          (r.draftSteps id (j.openAll participants).1 (j.openAll participants).2).2 := by
      simp only [startSteps, perform, draft, blank, Bool.false_eq_true, if_false]
    rw [started]
    unfold draftSteps
    rcases loaded : r.load id (j.openAll participants).2 with ⟨found, l⟩
    cases found with
    | error failure => exact .inl nobody
    | ok found =>
      dsimp only [commit]
      rcases saved : r.save ((found.getD (RequestTrace.empty id)).append
        (j.openAll participants).1) l with ⟨done, k⟩
      cases done with
      | error failure =>
        refine .inl ?_
        dsimp only
        rw [List.map_map]
        exact nobody
      | ok u =>
        refine .inr ⟨_, named, ⟨?_, found, l, ?_, saved⟩, rfl⟩
        · rw [named]
        · rw [named, loaded]

end Recorder

structure Books where
  recipients : List RecipientId
  steps : RecipientMap (Option StepId)
  resolved : RecipientSet
  anyFailed : Bool

namespace Books

def enter (b : Books) (r : Resolution) : Books :=
  { b with resolved := b.resolved.insert r.sender (), anyFailed := b.anyFailed || !r.result.isOk }

/-- Nobody has reported yet; the recipients are given the steps in order. -/
def opened (recipients : List RecipientId) (steps : List (Option StepId)) : Books :=
  ⟨recipients, .ofList (recipients.zip steps), .empty, false⟩

def unresolved (b : Books) : List RecipientId :=
  b.recipients.filter fun r => !b.resolved.contains r

/-- The books agree with one another, and with the reports that have been made. -/
structure InOrder (b : Books) (rs : List Resolution) : Prop where
  distinct : b.recipients.Nodup
  named : ∀ r ∈ b.recipients, ¬ r.Blank
  recorded : ∀ r, r ∈ b.steps.keys ↔ r ∈ b.recipients
  asked : ∀ r ∈ b.resolved.keys, r ∈ b.recipients
  once : (rs.map Resolution.sender).Nodup
  reported : ∀ r, r ∈ b.resolved.keys ↔ r ∈ rs.map Resolution.sender
  counted : b.resolved.size = rs.length
  failed : b.anyFailed = true ↔ ∃ r ∈ rs, ∃ e, r.result = .error e

/-- The coordinator and all recipients are recorded under the steps opened for them, or nobody
is. -/
inductive Recorded (b : Books) (c : Coordinator) (id : RequestId) (own : Option StepId)
    (j k : Journal) : Prop
  | nobody (unknown : own = none) (steps : ∀ r ∈ b.recipients, b.steps.get? r = some none)
  | everybody {s : Step} {steps : List Step} (opened : c.recorder.Opened id (s :: steps) j k)
    (label : s.participant = c.label) (known : own = some s.stepId)
    (labels : List.Forall₂ (fun r t => t.participant = r.text ∧
      b.steps.get? r = some (some t.stepId)) b.recipients steps)

variable {b : Books} {rs : List Resolution} {recipients : List RecipientId}
  {answer : List (Option StepId)}

@[simp] theorem recipients_foldl_enter (rs : List Resolution) (b : Books) :
    (rs.foldl enter b).recipients = b.recipients := by
  induction rs generalizing b with
  | nil => rfl
  | cons r rest ih => exact ih (b.enter r)

@[simp] theorem steps_foldl_enter (rs : List Resolution) (b : Books) :
    (rs.foldl enter b).steps = b.steps := by
  induction rs generalizing b with
  | nil => rfl
  | cons r rest ih => exact ih (b.enter r)

theorem mem_unresolved_iff (r : RecipientId) :
    r ∈ b.unresolved ↔ r ∈ b.recipients ∧ r ∉ b.resolved.keys := by
  rw [unresolved, List.mem_filter, Bool.not_eq_true', ← Bool.not_eq_true,
    RecipientMap.contains_iff]

/-- Some of the recipients are as many as all of them only if they are all of them. -/
theorem size_eq_length_iff (distinct : b.recipients.Nodup)
    (asked : ∀ r ∈ b.resolved.keys, r ∈ b.recipients) :
    b.resolved.size = b.recipients.length ↔ ∀ r ∈ b.recipients, r ∈ b.resolved.keys := by
  have inside : b.resolved.keys.toFinset ⊆ b.recipients.toFinset := by
    intro r member
    exact List.mem_toFinset.2 (asked r (List.mem_toFinset.1 member))
  rw [RecipientMap.size_eq_card, ← List.toFinset_card_of_nodup distinct]
  constructor
  · intro asMany r listed
    have whole := Finset.eq_of_subset_of_card_le inside (Nat.le_of_eq asMany.symm)
    rw [← List.mem_toFinset, whole]
    exact List.mem_toFinset.2 listed
  · intro all
    refine congrArg Finset.card (Finset.Subset.antisymm inside ?_)
    intro r member
    exact List.mem_toFinset.2 (all r (List.mem_toFinset.1 member))

theorem unresolved_eq_nil_iff (distinct : b.recipients.Nodup)
    (asked : ∀ r ∈ b.resolved.keys, r ∈ b.recipients) :
    b.unresolved = [] ↔ b.resolved.size = b.recipients.length := by
  rw [size_eq_length_iff distinct asked, unresolved, List.filter_eq_nil_iff]
  simp

/-- A recipient is recorded under what was answered for it. -/
theorem get?_steps_opened (once : recipients.Nodup) (all : recipients.length ≤ answer.length)
    {r : RecipientId} {step : Option StepId} (beside : (r, step) ∈ recipients.zip answer) :
    (opened recipients answer).steps.get? r = some step := by
  refine RecipientMap.get?_ofList_of_mem ?_ beside
  rwa [List.map_fst_zip all]

theorem inOrder_opened (once : recipients.Nodup) (named : ∀ r ∈ recipients, ¬ r.Blank)
    (all : recipients.length ≤ answer.length) : (opened recipients answer).InOrder [] where
  distinct := once
  named := named
  recorded := by
    intro r
    rw [opened, RecipientMap.mem_keys_ofList, List.map_fst_zip all]
    rwa [List.map_fst_zip all]
  asked := by simp [opened, RecipientMap.keys, RecipientMap.empty]
  once := List.nodup_nil
  reported := by simp [opened, RecipientMap.keys, RecipientMap.empty]
  counted := rfl
  failed := by simp [opened]

/-- The report of a recipient that has not reported leaves the books in order. -/
theorem InOrder.enter (before : b.InOrder rs) {r : Resolution} (pending : r.sender ∈ b.unresolved) :
    (b.enter r).InOrder (rs ++ [r]) := by
  obtain ⟨listed, unheard⟩ := (b.mem_unresolved_iff r.sender).1 pending
  refine ⟨before.distinct, before.named, before.recorded, ?_, ?_, ?_, ?_, ?_⟩
  · intro s resolved
    rcases (RecipientMap.mem_keys_insert _ _ _ _).1 resolved with rfl | earlier
    · exact listed
    · exact before.asked s earlier
  · rw [List.map_append, List.nodup_append]
    refine ⟨before.once, List.nodup_singleton _, ?_⟩
    intro s earlier t last same
    rw [List.map_singleton, List.mem_singleton] at last
    subst same last
    exact unheard ((before.reported _).2 earlier)
  · intro s
    rw [Books.enter, RecipientMap.mem_keys_insert, before.reported, List.map_append,
      List.mem_append, List.map_singleton, List.mem_singleton, or_comm]
  · rw [Books.enter, RecipientMap.size_insert _ unheard, before.counted, List.length_append,
      List.length_singleton]
  · have one : (!r.result.isOk) = true ↔ ∃ e, r.result = .error e := by
      cases r.result <;> simp [Except.isOk, Except.toBool]
    rw [Books.enter, Bool.or_eq_true, before.failed, one]
    simp only [List.mem_append, List.mem_singleton, or_and_right, exists_or, exists_eq_left]

/-- What the recorder answers is what the books show. -/
theorem recorded_opened {c : Coordinator} {id : RequestId} {j k : Journal} (once : recipients.Nodup)
    (answered :
      answer = (c.label :: recipients.map RecipientId.text).map (fun _ => none) ∨
      ∃ steps : List Step, steps.map Step.participant = c.label :: recipients.map RecipientId.text ∧
        c.recorder.Opened id steps j k ∧ answer = steps.map fun s => some s.stepId) :
    (opened recipients answer.tail).Recorded c id answer.head?.join j k := by
  rcases answered with rfl | ⟨steps, labels, written, rfl⟩
  · refine .nobody rfl ?_
    rw [List.map_cons, List.tail_cons, List.map_map]
    intro r member
    refine get?_steps_opened once (by simp) ?_
    rw [← List.map_prod_left_eq_zip]
    exact List.mem_map.2 ⟨r, member, rfl⟩
  · cases steps with
    | nil => cases labels
    | cons s steps =>
      rw [List.map_cons, List.cons.injEq] at labels
      have named : List.Forall₂ (fun r t => RecipientId.text r = Step.participant t)
          recipients steps := by
        have same : List.Forall₂ (· = ·) (recipients.map RecipientId.text)
            (steps.map Step.participant) := by
          rw [List.forall₂_eq_eq_eq, labels.2]
        rwa [List.forall₂_map_left_iff, List.forall₂_map_right_iff] at same
      have asMany := named.length_eq
      refine .everybody written labels.1 rfl ?_
      rw [List.map_cons, List.tail_cons, List.forall₂_iff_zip]
      refine ⟨asMany, ?_⟩
      intro r t beside
      refine ⟨(List.forall₂_zip named beside).symm, ?_⟩
      refine get?_steps_opened once (by simp [asMany]) ?_
      rw [List.zip_map_right]
      exact List.mem_map.2 ⟨(r, t), beside, rfl⟩

end Books

namespace FanOut

/-- The books of a fan-out, as its slots show them. -/
def books (f : FanOut) : Books :=
  { recipients := f.slots.map Slot.recipient
    steps := .ofList (f.slots.map fun p => (p.recipient, p.step))
    resolved := .ofRecipients ((f.slots.filter fun p => p.report.isSome).map Slot.recipient)
    anyFailed := f.anyFailed }

variable {f : FanOut}

theorem mem_resolved_iff (f : FanOut) (q : RecipientId) :
    q ∈ f.books.resolved.keys ↔ ∃ p ∈ f.slots, ∃ told, p.report = some told ∧ p.recipient = q := by
  simp only [books, RecipientSet.mem_keys_ofRecipients, List.mem_map, List.mem_filter,
    Option.isSome_iff_exists, and_assoc, exists_and_right]

theorem resolved_subset (f : FanOut) : ∀ q ∈ f.books.resolved.keys, q ∈ f.books.recipients := by
  intro q reported
  obtain ⟨p, listed, -, -, rfl⟩ := (f.mem_resolved_iff q).1 reported
  exact List.mem_map_of_mem listed

theorem anyFailed_iff (f : FanOut) :
    f.anyFailed = true ↔ ∃ p ∈ f.slots, ∃ told, p.report = some told ∧ told.isOk = false := by
  simp only [anyFailed, List.any_eq_true, Option.any_eq_true, Bool.not_eq_true']

section Slots
variable (once : (f.slots.map Slot.recipient).Nodup)
include once

theorem slot_unique {p p' : Slot} (member : p ∈ f.slots) (member' : p' ∈ f.slots)
    (same : p.recipient = p'.recipient) : p = p' :=
  List.inj_on_of_nodup_map once member member' same

theorem recipient_mem_resolved_iff {p : Slot} (member : p ∈ f.slots) :
    p.recipient ∈ f.books.resolved.keys ↔ p.report.isSome = true := by
  rw [mem_resolved_iff, Option.isSome_iff_exists]
  constructor
  · intro reported
    obtain ⟨p', listed, told, report, same⟩ := reported
    rw [slot_unique once listed member same] at report
    exact ⟨told, report⟩
  · intro reported
    obtain ⟨told, report⟩ := reported
    exact ⟨p, member, told, report, rfl⟩

theorem get?_steps_books {p : Slot} (member : p ∈ f.slots) :
    f.books.steps.get? p.recipient = some p.step := by
  refine RecipientMap.get?_ofList_of_mem ?_ (List.mem_map.2 ⟨p, member, rfl⟩)
  rwa [List.map_map]

theorem mem_steps_books (q : RecipientId) :
    q ∈ f.books.steps.keys ↔ q ∈ f.books.recipients := by
  rw [books, RecipientMap.mem_keys_ofList (by rwa [List.map_map]), List.map_map]
  rfl

theorem missing_eq_unresolved : f.missing = f.books.unresolved := by
  show (f.slots.filter _).map _ = (f.slots.map _).filter _
  rw [List.filter_map]
  refine congrArg (List.map Slot.recipient) (List.filter_congr ?_)
  intro p member
  have reported := recipient_mem_resolved_iff once member
  rw [← RecipientMap.contains_iff, ← Bool.eq_iff_iff] at reported
  rw [Function.comp_apply, reported, Option.not_isSome]

/-- A message counts if its sender is a recipient and has not reported, and closes its step. -/
theorem pendingStep?_eq_ite (q : RecipientId) :
    f.pendingStep? q =
      if f.books.resolved.contains q then none else f.books.steps.get? q := by
  have missing : q ∈ f.missing ↔ q ∈ f.books.recipients ∧ q ∉ f.books.resolved.keys := by
    rw [missing_eq_unresolved once, Books.mem_unresolved_iff]
  by_cases owed : q ∈ f.missing
  · rw [if_neg (mt (RecipientMap.contains_iff _ _).1 (missing.1 owed).2)]
    obtain ⟨step, known⟩ := Option.ne_none_iff_exists'.1
      (mt (f.pendingStep?_eq_none_iff q).1 (not_not.2 owed))
    rw [known]
    obtain ⟨p, found, rfl⟩ := Option.map_eq_some_iff.1 known
    have same := List.find?_some found
    rw [Bool.and_eq_true, beq_iff_eq] at same
    rw [← same.1]
    exact (get?_steps_books once (List.mem_of_find?_eq_some found)).symm
  · rw [(f.pendingStep?_eq_none_iff q).2 owed]
    split
    · rfl
    · rename_i unresolved
      rw [RecipientMap.contains_iff] at unresolved
      have stranger : q ∉ f.books.recipients := fun listed => owed (missing.2 ⟨listed, unresolved⟩)
      rw [← mem_steps_books once, RecipientMap.mem_keys_iff] at stranger
      rw [eq_comm, Option.eq_none_iff_forall_ne_some]
      exact fun step held => stranger ⟨step, held⟩

/-- What holds of a report once one more is noted holds of this one or of one before. -/
theorem exists_report_fill_iff {q : RecipientId} (owed : q ∈ f.missing)
    (result : Except RemoteError String) (P : RecipientId → Except RemoteError String → Prop) :
    (∃ p ∈ fill q result f.slots, ∃ told, p.report = some told ∧ P p.recipient told) ↔
      P q result ∨ ∃ p ∈ f.slots, ∃ told, p.report = some told ∧ P p.recipient told := by
  obtain ⟨p, pending, rfl⟩ := List.mem_map.1 owed
  obtain ⟨listed, unheard⟩ := List.mem_filter.1 pending
  constructor
  · intro found
    obtain ⟨p', filled, told, report, holds⟩ := found
    obtain ⟨p'', listed', rfl⟩ := List.mem_map.1 filled
    by_cases same : p''.recipient = p.recipient
    · rw [if_pos same] at report holds
      cases report
      exact .inl (same ▸ holds)
    · rw [if_neg same] at report holds
      exact .inr ⟨p'', listed', told, report, holds⟩
  · intro either
    rcases either with holds | ⟨p', listed', told, report, holds⟩
    · refine ⟨_, List.mem_map.2 ⟨p, listed, rfl⟩, result, ?_⟩
      rw [if_pos rfl]
      exact ⟨rfl, holds⟩
    · refine ⟨_, List.mem_map.2 ⟨p', listed', rfl⟩, told, ?_⟩
      -- The slot that is filled held no report, so that none is lost.
      have other : p'.recipient ≠ p.recipient := by
        intro same
        rw [slot_unique once listed' listed same] at report
        simp [report] at unheard
      rw [if_neg other]
      exact ⟨report, holds⟩

theorem books_fill {q : RecipientId} (owed : q ∈ f.missing) {result : Except RemoteError String}
    {g : FanOut} (filled : g.slots = fill q result f.slots) :
    g.books = f.books.enter ⟨q, result⟩ := by
  have entries : g.slots.map (fun p => (p.recipient, p.step)) =
      f.slots.map fun p => (p.recipient, p.step) := by
    rw [filled, fill, List.map_map]
    refine List.map_congr_left fun p _ => ?_
    dsimp only [Function.comp]
    split <;> rfl
  have recipients : g.slots.map Slot.recipient = f.slots.map Slot.recipient := by
    rw [filled, recipient_fill]
  have resolved : g.books.resolved = f.books.resolved.insert q () := by
    refine RecipientSet.ext_keys fun s => ?_
    have one := exists_report_fill_iff once owed result fun r _ => r = s
    rw [RecipientMap.mem_keys_insert, mem_resolved_iff, mem_resolved_iff, filled, one, eq_comm]
  have failed : g.anyFailed = (f.anyFailed || !result.isOk) := by
    have one := exists_report_fill_iff once owed result fun _ told => told.isOk = false
    rw [Bool.eq_iff_iff, Bool.or_eq_true, anyFailed_iff, anyFailed_iff, filled, one,
      Bool.not_eq_true', or_comm]
  show Books.mk _ _ _ _ = Books.mk _ _ _ _
  rw [recipients, entries, failed, ← resolved]
  rfl

end Slots

end FanOut

end RollCall
