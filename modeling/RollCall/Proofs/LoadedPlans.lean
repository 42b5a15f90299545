import RollCall.Plan.Load
import RollCall.Plan.Run
import RollCall.Proofs.Mistakes

set_option autoImplicit false

/-!
Plans that have been read, run in an office that has been opened. The deadline was looked at by
then, wherever it comes from, so that a run is refused for the content of its plan or not at all.
-/
namespace RollCall

def Workflow.recipients : Workflow → List RecipientId
  | .broadcast recipients _ => recipients
  | .relay seeds _ _ => seeds

def Workflow.standingDeadline (settings : Settings) : Workflow → Span
  | .broadcast _ _ => settings.broadcastDeadline
  | .relay _ _ _ => settings.relayDeadline

/-- How long a workflow waits: as it states, or else as the settings do. -/
def Workflow.deadline (settings : Settings) (work : Workflow) : Span :=
  (work.deadlineMs.map Span.ofMillis).getD (work.standingDeadline settings)

/-- What the content of a plan can get wrong, name and deadline apart. -/
inductive WorkflowPlan.Unfit (p : WorkflowPlan) : Prop
  | nobody (none : p.workflow.recipients = [])
  | blank {r : RecipientId} (listed : r ∈ p.workflow.recipients) (blank : r.Blank)
  | nothing (void : p.payload.Void)
  | unmarked {seeds : List RecipientId} {deadlineMs : Option UInt64}
    (relay : p.workflow = .relay seeds "" deadlineMs)

section Deadlines

variable {settings : Settings} {work : Workflow}

theorem Span.millis_ofMillis_ne_zero {ms : UInt64} (positive : ms ≠ 0) :
    (ofMillis ms).millis ≠ 0 := by
  rw [millis_ofMillis]
  exact fun zero => positive (UInt64.toNat_inj.1 zero)

theorem Workflow.millis_standingDeadline_ne_zero (acceptable : settings.fault? = none) :
    (work.standingDeadline settings).millis ≠ 0 := by
  obtain ⟨-, lengths⟩ := Settings.fault?_eq_none_iff.1 acceptable
  cases work with
  | broadcast recipients deadlineMs =>
    exact Span.millis_ofMillis_ne_zero
      (lengths ("broadcast_deadline_ms", _) (by simp [Settings.lengths]))
  | relay seeds marker deadlineMs =>
    exact Span.millis_ofMillis_ne_zero
      (lengths ("relay_deadline_ms", _) (by simp [Settings.lengths]))

/-- Neither acceptable settings nor an acceptable plan leave no time. -/
theorem Workflow.millis_deadline_ne_zero (acceptable : settings.fault? = none)
    (stated : work.deadlineMs ≠ some 0) : (work.deadline settings).millis ≠ 0 := by
  unfold deadline
  cases own : work.deadlineMs with
  | none => exact millis_standingDeadline_ne_zero acceptable
  | some ms =>
    rw [own] at stated
    exact Span.millis_ofMillis_ne_zero fun zero => stated (congrArg some zero)

end Deadlines

/-- The call that a workflow names, with a payload and a deadline. -/
def Coordinator.carryOut (c : Coordinator) (payload : Json) (deadline : Span) (w : World) :
    Workflow → Except Error WorkflowOutcome × World
  | .broadcast recipients _ =>
    (c.broadcast recipients payload deadline.millis w).map (·.map .broadcast) id
  | .relay seeds marker _ =>
    (c.relay seeds payload marker deadline.millis w).map (·.map .relay) id

theorem Office.run_eq_carryOut (o : Office) (p : WorkflowPlan) (w : World) :
    o.run p w = o.coordinator.carryOut p.payload (p.workflow.deadline o.settings) w p.workflow := by
  obtain ⟨name, payload, work⟩ := p
  rcases work with ⟨recipients, _ | ms⟩ | ⟨seeds, marker, _ | ms⟩ <;>
    simp only [run, Coordinator.carryOut, Workflow.deadline, Workflow.deadlineMs,
      Workflow.standingDeadline, Settings.broadcastDeadline, Settings.relayDeadline,
      Option.map_none, Option.map_some, Option.getD_none, Option.getD_some,
      Span.millis_ofMillis] <;> rfl

section Refusals

variable {α β : Type} {mistaken mistaken' : Prop} {w : World} {call : Except Error α × World}

/-- A call is refused for the same whatever its result is wrapped in. -/
theorem RefusesOnly.map (f : α → β) (same : mistaken ↔ mistaken')
    (refuses : RefusesOnly mistaken w call) :
    RefusesOnly mistaken' w (call.map (·.map f) id) := by
  obtain ⟨result, w'⟩ := call
  have kept (e : Error) : result.map f = .error e ↔ result = .error e := by
    cases result <;> simp [Except.map]
  constructor
  · rw [← same, ← refuses.refused_iff]
    simp only [Prod.map_fst, kept]
  · intro what failed
    exact refuses.untouched what ((kept _).1 failed)

theorem FailsOnlyRefused.map (f : α → β) (fails : FailsOnlyRefused call) :
    FailsOnlyRefused (call.map (·.map f) id) := by
  obtain ⟨result, w'⟩ := call
  intro e failed
  cases result with
  | error e' =>
    cases failed
    exact fails e rfl
  | ok a => cases failed

end Refusals

namespace WorkflowPlan

variable {p : WorkflowPlan} {deadline : Nat}

theorem unfit_iff_of_broadcast {recipients : List RecipientId} {deadlineMs : Option UInt64}
    (work : p.workflow = .broadcast recipients deadlineMs) (positive : deadline ≠ 0) :
    Mistaken recipients p.payload deadline ↔ p.Unfit := by
  have own : p.workflow.recipients = recipients := by rw [work]; rfl
  constructor
  · intro mistake
    cases mistake with
    | nobody none => exact .nobody (own.trans none)
    | blank listed blank => exact .blank (own ▸ listed) blank
    | noTime zero => exact absurd zero positive
    | nothing void => exact .nothing void
  · intro mistake
    cases mistake with
    | nobody none => exact .nobody (own.symm.trans none)
    | blank listed blank => exact .blank (own ▸ listed) blank
    | nothing void => exact .nothing void
    | unmarked relay => cases work.symm.trans relay

theorem unfit_iff_of_relay {seeds : List RecipientId} {marker : String}
    {deadlineMs : Option UInt64} (work : p.workflow = .relay seeds marker deadlineMs)
    (positive : deadline ≠ 0) :
    (Mistaken seeds p.payload deadline ∨ marker = "") ↔ p.Unfit := by
  have own : p.workflow.recipients = seeds := by rw [work]; rfl
  constructor
  · intro mistake
    rcases mistake with (none | ⟨listed, blank⟩ | zero | void) | empty
    · exact .nobody (own.trans none)
    · exact .blank (own ▸ listed) blank
    · exact absurd zero positive
    · exact .nothing void
    · exact .unmarked (empty ▸ work)
  · intro mistake
    cases mistake with
    | nobody none => exact .inl (.nobody (own.symm.trans none))
    | blank listed blank => exact .inl (.blank (own ▸ listed) blank)
    | nothing void => exact .inl (.nothing void)
    | unmarked relay =>
      cases work.symm.trans relay
      exact .inr rfl

end WorkflowPlan

/-- With some time to wait a workflow is refused for its content only. -/
theorem Coordinator.carryOut_refusesOnly (c : Coordinator) (p : WorkflowPlan) {deadline : Span}
    (positive : deadline.millis ≠ 0) (w : World) :
    RefusesOnly p.Unfit w (c.carryOut p.payload deadline w p.workflow) ∧
      FailsOnlyRefused (c.carryOut p.payload deadline w p.workflow) := by
  cases work : p.workflow with
  | broadcast recipients deadlineMs =>
    obtain ⟨refuses, fails⟩ := c.broadcast_refusesOnly recipients p.payload deadline.millis w
    exact ⟨refuses.map _ (WorkflowPlan.unfit_iff_of_broadcast work positive), fails.map _⟩
  | relay seeds marker deadlineMs =>
    obtain ⟨refuses, fails⟩ := c.relay_refusesOnly seeds p.payload marker deadline.millis w
    exact ⟨refuses.map _ (WorkflowPlan.unfit_iff_of_relay work positive), fails.map _⟩

/--
Every plan that is read from a text, run in any office that was opened, in any world: the run is the
call that its workflow names, with the deadline that it states or else with that of the settings,
which leaves some time. The run is refused exactly if the plan asks nobody or somebody without a
name, says nothing or watches for nothing; a refused run has done nothing, and no run fails
otherwise.
-/
theorem loaded_plans_fail_on_content {text : String} {p : WorkflowPlan}
    {transport : Option Transport} {settings : Settings} {o : Office}
    (loaded : WorkflowPlan.ofYaml text = .ok p)
    (opened : Office.establish transport settings = .ok o) (w : World) :
    o.run p w = o.coordinator.carryOut p.payload (p.workflow.deadline settings) w p.workflow ∧
      (p.workflow.deadline settings).millis ≠ 0 ∧
      RefusesOnly p.Unfit w (o.run p w) ∧ FailsOnlyRefused (o.run p w) := by
  obtain ⟨-, sound⟩ := WorkflowPlan.ofYaml_eq_ok_iff.1 loaded
  obtain ⟨-, acceptable, rfl⟩ := Office.establish_eq_ok_iff.1 opened
  obtain ⟨-, stated⟩ := WorkflowPlan.fault?_eq_none_iff.1 sound
  have positive := Workflow.millis_deadline_ne_zero acceptable stated
  have run := o.run_eq_carryOut p w
  refine ⟨run, positive, ?_⟩
  rw [run]
  exact o.coordinator.carryOut_refusesOnly p positive w

def WorkflowPlan.rehearsal : String :=
  "name: round\npayload: ready?\nworkflow:\n  pattern: relay\n" ++
    "  seed_recipients: [a, ' ']\n  terminal_marker: done\n"

theorem loaded_plans_fail_on_content_rehearsal :
    ∃ (p : WorkflowPlan) (o : Office), WorkflowPlan.ofYaml WorkflowPlan.rehearsal = .ok p ∧
      Office.establish (some (.network (Network.empty fun _ => ⟨0, 0⟩))) Settings.standard = .ok o ∧
      (p.workflow.deadline Settings.standard).millis = 60000 ∧
      ∃ what, o.run p (World.exchangeRehearsal []) =
        (.error (.invalidInput what), World.exchangeRehearsal []) := by
  have work : (WorkflowPlan.ofYaml WorkflowPlan.rehearsal).toOption.map WorkflowPlan.workflow =
      some (.relay [⟨"a"⟩, ⟨" "⟩] "done" none) := by decide +kernel
  cases loaded : WorkflowPlan.ofYaml WorkflowPlan.rehearsal with
  | error e => simp [loaded, Except.toOption] at work
  | ok p =>
    have own : p.workflow = .relay [⟨"a"⟩, ⟨" "⟩] "done" none := by
      simpa [loaded, Except.toOption] using work
    have opened : Office.establish (some (.network (Network.empty fun _ => ⟨0, 0⟩))) Settings.standard =
        .ok ⟨Settings.standard, by decide⟩ :=
      Office.establish_eq_ok_iff.2 ⟨rfl, by decide, rfl⟩
    obtain ⟨-, -, refuses, -⟩ :=
      loaded_plans_fail_on_content loaded opened (World.exchangeRehearsal [])
    have unfit : p.Unfit := .blank (r := ⟨" "⟩) (by simp [own, Workflow.recipients])
      (RecipientId.isBlank_iff.1 (by decide))
    obtain ⟨what, refused⟩ := refuses.refused_iff.2 unfit
    refine ⟨p, _, rfl, opened, ?_, what, Prod.ext refused (refuses.untouched what refused)⟩
    rw [own]
    decide

end RollCall
