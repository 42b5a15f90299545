import RollCall.Office
import RollCall.Plan.Basic

set_option autoImplicit false

/-!
Running a plan: the broadcast or relay that it names, with its deadline or else that of the
settings.
-/
namespace RollCall.Office

def run (o : Office) (p : WorkflowPlan) (w : World) : Except Error WorkflowOutcome × World :=
  match p.workflow with
  | .broadcast recipients deadlineMs =>
    let deadline := (deadlineMs.getD o.settings.broadcastDeadlineMs).toNat
    let (result, w) := o.coordinator.broadcast recipients p.payload deadline w
    (result.map WorkflowOutcome.broadcast, w)
  | .relay seeds marker deadlineMs =>
    let deadline := (deadlineMs.getD o.settings.relayDeadlineMs).toNat
    let (result, w) := o.coordinator.relay seeds p.payload marker deadline w
    (result.map WorkflowOutcome.relay, w)

end RollCall.Office
