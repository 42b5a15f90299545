import RollCall.Message.Identity
import RollCall.Time.Timestamp

set_option autoImplicit false

/-!
The trace of a request: an append-only list of steps that name who took part, when, and with what
success. The first close of a step wins.
-/
namespace RollCall

/-- One participant's part in a request; it is open until it has an end. -/
structure Step where
  stepId : StepId
  participant : String
  startTime : Timestamp
  endTime : Option Timestamp
  success : Option Bool
deriving DecidableEq, Repr

/-- The state of a step as shown to operators. -/
inductive StepStatus where
  | «open»
  | succeeded
  | failed
  /-- Never closed, although the request itself is over. -/
  | abandoned
deriving DecidableEq, Repr

def StepStatus.label : StepStatus → String
  | .open => "open"
  | .succeeded => "ok"
  | .failed => "failed"
  | .abandoned => "abandoned"

namespace Step

/-- A step that starts now. -/
def started (id : StepId) (participant : String) (now : Timestamp) : Step :=
  ⟨id, participant, now, none, none⟩

/-- A step that is over now; one that starts in the future takes no time. -/
def finished (id : StepId) (participant : String) (startTime now : Timestamp) (success : Bool) :
    Step :=
  ⟨id, participant, startTime, some (Timestamp.latest now startTime), some success⟩

def isOpen (s : Step) : Bool := s.endTime.isNone

/-- Closes an open step; a closed one stays as it is. -/
def close (s : Step) (now : Timestamp) (success : Bool) : Step :=
  if s.isOpen then { s with endTime := some now, success := some success } else s

/-- How long a closed step took, if it did not end before it started. -/
def duration? (s : Step) : Option Span := s.endTime.bind fun t => t.since? s.startTime

def status (s : Step) : StepStatus :=
  match s.success with
  | none => .open
  | some true => .succeeded
  | some false => .failed

@[simp] theorem isOpen_started (id : StepId) (participant : String) (now : Timestamp) :
    (started id participant now).isOpen = true := rfl

@[simp] theorem isOpen_finished (id : StepId) (participant : String) (t now : Timestamp)
    (b : Bool) :
    (finished id participant t now b).isOpen = false := rfl

@[simp] theorem isOpen_close (s : Step) (now : Timestamp) (success : Bool) :
    (s.close now success).isOpen = false := by
  unfold close
  split
  · rfl
  · simpa using ‹¬ s.isOpen = true›

@[simp] theorem stepId_close (s : Step) (now : Timestamp) (success : Bool) :
    (s.close now success).stepId = s.stepId := by
  unfold close
  split <;> rfl

theorem close_of_closed {s : Step} (h : s.isOpen = false) (now : Timestamp) (success : Bool) :
    s.close now success = s := by
  simp [close, h]

end Step

/-- All steps of one request, in the order in which they were recorded. -/
structure RequestTrace where
  requestId : RequestId
  steps : List Step
deriving DecidableEq, Repr

/-- One line of a route: who, in what state, and for how many milliseconds. -/
structure RouteEntry where
  participant : String
  status : StepStatus
  durationMs : Option UInt64
deriving DecidableEq, Repr

def RouteEntry.text (e : RouteEntry) : String :=
  let head := e.participant ++ " [" ++ e.status.label ++ "]"
  match e.durationMs with
  | some ms => head ++ " " ++ toString ms.toNat ++ "ms"
  | none => head

namespace RequestTrace

def empty (id : RequestId) : RequestTrace := ⟨id, []⟩

def step? (t : RequestTrace) (id : StepId) : Option Step := t.steps.find? fun s => s.stepId == id

def openSteps (t : RequestTrace) : List Step := t.steps.filter Step.isOpen

/-- The labels that occur, each at its first place. -/
def participants (t : RequestTrace) : List String :=
  (t.steps.map Step.participant).foldl
    (fun seen p => if seen.contains p then seen else seen ++ [p]) []

/-- The request is over once its first step, the coordinator's, is closed. -/
def isOver (t : RequestTrace) : Bool :=
  match t.steps with
  | [] => false
  | s :: _ => !s.isOpen

/-- The view for operators: steps still open when the request is over are abandoned. -/
def route (t : RequestTrace) : List RouteEntry :=
  t.steps.map fun s =>
    { participant := s.participant
      status := if t.isOver && s.status == .open then .abandoned else s.status
      durationMs := s.duration?.map fun d => UInt64.ofNat d.millis }

/-- Puts a step behind those that do not start later. -/
def insertByStart (s : Step) : List Step → List Step
  | [] => [s]
  | t :: rest =>
    if t.startTime ≤ s.startTime then t :: insertByStart s rest else s :: t :: rest

/-- The steps in order of their start; steps that start together keep their order. -/
def sorted (t : RequestTrace) : RequestTrace :=
  { t with steps := t.steps.foldl (fun ordered s => insertByStart s ordered) [] }

def append (t : RequestTrace) (steps : List Step) : RequestTrace :=
  { t with steps := t.steps ++ steps }

/-- Closes the first step with an identifier, if it is there and open. -/
def closeStep (steps : List Step) (id : StepId) (now : Timestamp) (success : Bool) : List Step :=
  match steps with
  | [] => []
  | s :: rest =>
    if s.stepId = id then s.close now success :: rest
    else s :: closeStep rest id now success

end RequestTrace

end RollCall
