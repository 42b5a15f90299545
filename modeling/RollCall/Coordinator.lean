import RollCall.Error
import RollCall.World

set_option autoImplicit false

/-!
Who makes the calls: the label under which the coordinator's own steps are recorded, what the topics
of its channels begin with, and its recorder.
-/
namespace RollCall

structure Coordinator where
  label : String
  topicPrefix : String
  recorder : Recorder
deriving DecidableEq, Repr

namespace Coordinator

def topic (c : Coordinator) (pattern : String) (id : RequestId) : String :=
  c.topicPrefix ++ "." ++ pattern ++ "." ++ id.text

/-- The label of the coordinator's side of a unicast exchange. -/
def exchangeLabel (c : Coordinator) : String := c.label ++ ":exchange"

def startSteps (c : Coordinator) (id : RequestId) (participants : List String) (w : World) :
    List (Option StepId) × World :=
  w.record (c.recorder.startSteps id participants)

def endSteps (c : Coordinator) (id : RequestId) (closes : List (Option StepId × Bool)) (w : World) :
    World :=
  w.recording (c.recorder.endSteps id closes)

def endStep (c : Coordinator) (id : RequestId) (step : Option StepId) (success : Bool) (w : World) :
    World :=
  w.recording (c.recorder.endStep id step success)

/-- The trace of a request as it is now. -/
def trace (c : Coordinator) (id : RequestId) (w : World) : RequestTrace × World :=
  w.record (c.recorder.trace id)

end Coordinator

end RollCall
