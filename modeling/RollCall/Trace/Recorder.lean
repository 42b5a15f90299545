import RollCall.Clock
import RollCall.Text.Quoted
import RollCall.Trace.Store.Basic

set_option autoImplicit false

/-!
Recording steps. The recorder reads a trace, changes it and writes it back; when an operation of the
store fails or takes too long it gives up, so that a trace may lack steps but a call goes on.
-/
namespace RollCall

/-- A trace store with the clock it runs by and the number of step identifiers handed out. -/
structure Journal where
  clock : Clock
  store : TraceStore
  stepCount : Nat
  /-- An operation of the store has ended the program; nothing that is done after it is seen. -/
  brokenOff : Bool

namespace Journal

/-- The identifier of the `n`-th step. -/
def stepId (n : Nat) : StepId := ⟨BitVec.ofNat 128 n⟩

def freshIds (j : Journal) (count : Nat) : List StepId :=
  (List.range count).map fun i => stepId (j.stepCount + i)

/-- The journal after some time. -/
def wait (j : Journal) (ms : Nat) : Journal := { j with clock := j.clock.wait ms }

/-- Steps that start now, one after another. -/
def openAll : List String → Journal → List Step × Journal
  | [], j => ([], j)
  | participant :: rest, j =>
    let step := Step.started (stepId j.stepCount) participant j.clock.reading
    let (steps, j) := openAll rest { j with clock := j.clock.tick, stepCount := j.stepCount + 1 }
    (step :: steps, j)

end Journal

/-- What the recorder is asked to note of a request. -/
inductive Recording where
  /-- Each participant takes part from now on. -/
  | start (participants : List String)
  /-- A participant has taken part, from some instant until now. -/
  | finished (participant : String) (startTime : Timestamp) (success : Bool)
  /-- The parts with these steps are over. -/
  | close (closes : List (Option StepId × Bool))

/-- What is left to do once the trace has been read, with the identifiers of the steps opened. -/
inductive Draft where
  | settled (answer : List (Option StepId))
  | pending (trace : RequestTrace) (answer : List (Option StepId))

/-- How long traces are kept and how long an operation of the store may take. -/
structure Recorder where
  ttl : Span
  storeTimeout : Span
deriving DecidableEq, Repr

namespace Recorder

/-- The store timeout of a recorder that is given none. -/
def standardStoreTimeout : Span := Span.ofMillis 100

/-- One entry of the script is taken and its time passes. -/
def enter (r : Recorder) (j : Journal) : TraceStore.Admission × Journal :=
  let (a, ms, store) := j.store.nextAdmission r.storeTimeout.millis
  (a, { j with clock := j.clock.wait ms, store := store })

def load (r : Recorder) (id : RequestId) (j : Journal) :
    Except StoreFailure (Option RequestTrace) × Journal :=
  match r.enter j with
  | (.failed f, j) => (.error f, j)
  | (.carriedOut, j) =>
    let (t, store) := j.store.load id j.clock.reading
    (t, { j with clock := j.clock.tick, store := store })

def save (r : Recorder) (trace : RequestTrace) (j : Journal) : Except StoreFailure Unit × Journal :=
  match r.enter j with
  | (.failed f, j) => (.error f, j)
  | (.carriedOut, j) =>
    let (done, store) := j.store.save trace r.ttl j.clock.reading
    (done, { j with
      clock := j.clock.tick, store := store, brokenOff := j.brokenOff || StoreFailure.breaksOff done })

/-- Appends steps to the trace as it is read: all identifiers, or none for any step. -/
def draftSteps (r : Recorder) (id : RequestId) (steps : List Step) (j : Journal) :
    Draft × Journal :=
  match r.load id j with
  | (.error _, j) => (.settled (steps.map fun _ => none), j)
  | (.ok found, j) =>
    (.pending ((found.getD (RequestTrace.empty id)).append steps)
      (steps.map fun s => some s.stepId), j)

/-- Closes steps one after another, each now; also says whether one of them was open. -/
def closeAll : List (Option StepId × Bool) → List Step → Clock → List Step × Bool × Clock
  | [], steps, clock => (steps, false, clock)
  | (none, _) :: rest, steps, clock => closeAll rest steps clock
  | (some id, success) :: rest, steps, clock =>
    let wasOpen := (steps.find? fun s => s.stepId == id).any Step.isOpen
    let (steps, changed, clock) := closeAll rest
      (RequestTrace.closeStep steps id clock.reading success) (if wasOpen then clock.tick else clock)
    (steps, wasOpen || changed, clock)

/-- Reads the trace of a request and drafts what is to be written. -/
def draft (r : Recorder) (id : RequestId) (a : Recording) (j : Journal) : Draft × Journal :=
  match a with
  | .start participants =>
    if id.isBlank then (.settled (participants.map fun _ => none), j)
    else
      let (steps, j) := j.openAll participants
      r.draftSteps id steps j
  | .finished participant startTime success =>
    if id.isBlank then (.settled [none], j)
    else
      let stepId := Journal.stepId j.stepCount
      let step := Step.finished stepId participant startTime j.clock.reading success
      r.draftSteps id [step] { j with clock := j.clock.tick, stepCount := j.stepCount + 1 }
  | .close closes =>
    if id.isBlank || closes.all (fun c => c.1.isNone) then (.settled [], j)
    else
      match r.load id j with
      | (.ok (some trace), j) =>
        let (steps, changed, clock) := closeAll closes trace.steps j.clock
        if changed then (.pending { trace with steps := steps } [], { j with clock := clock })
        else (.settled [], j)
      | (_, j) => (.settled [], j)

/-- Writes what was drafted, if anything. -/
def commit (r : Recorder) (d : Draft) (j : Journal) : List (Option StepId) × Journal :=
  match d with
  | .settled answer => (answer, j)
  | .pending trace answer =>
    match r.save trace j with
    | (.error _, j) => (answer.map fun _ => none, j)
    | (.ok _, j) => (answer, j)

/-- One use of the recorder: one load and, if there is something to write, one save. -/
def perform (r : Recorder) (id : RequestId) (a : Recording) (j : Journal) :
    List (Option StepId) × Journal :=
  let (d, j) := r.draft id a j
  r.commit d j

/-- Opens a step for each participant, all with one write. -/
def startSteps (r : Recorder) (id : RequestId) (participants : List String) (j : Journal) :
    List (Option StepId) × Journal :=
  r.perform id (.start participants) j

def startStep (r : Recorder) (id : RequestId) (participant : String) (j : Journal) :
    Option StepId × Journal :=
  let (ids, j) := r.startSteps id [participant] j
  (ids.head?.join, j)

/-- Appends a step that is already over. -/
def recordStep (r : Recorder) (id : RequestId) (participant : String) (startTime : Timestamp)
    (success : Bool) (j : Journal) : Option StepId × Journal :=
  let (ids, j) := r.perform id (.finished participant startTime success) j
  (ids.head?.join, j)

/-- Closes steps with one load, and one save if a step was open. -/
def endSteps (r : Recorder) (id : RequestId) (closes : List (Option StepId × Bool)) (j : Journal) :
    Journal :=
  (r.perform id (.close closes) j).2

def endStep (r : Recorder) (id : RequestId) (step : Option StepId) (success : Bool) (j : Journal) :
    Journal :=
  r.endSteps id [(step, success)] j

/-- The steps of a request in order of their start; none if they cannot be read. -/
def trace (r : Recorder) (id : RequestId) (j : Journal) : RequestTrace × Journal :=
  match r.load id j with
  | (.ok (some t), j) => (t.sorted, j)
  | (_, j) => (RequestTrace.empty id, j)

/-- The recorder's settings and the kind of store that it writes to. -/
def description (r : Recorder) (store : TraceStore) : String :=
  Text.described "StepRecorder"
    [("store", Text.quoted store.label), ("ttl", r.ttl.text),
      ("store_timeout", r.storeTimeout.text)]

end Recorder

end RollCall
