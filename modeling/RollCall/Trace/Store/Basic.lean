import RollCall.Trace.Store.Durable
import RollCall.Trace.Store.Memory

set_option autoImplicit false

/-!
Trace stores and what can disturb them. A disturbed store takes one entry of its script for every
operation: it may carry the operation out or refuse it, either at once or after a while. An
operation that takes longer than it may is cut off and changes nothing.
-/
namespace RollCall

inductive Backend where
  | memory (s : MemoryStore)
  | durable (s : DurableStore .json)

inductive Disturbance where
  | proceed
  | refuse
  | stall (ms : Nat)
  | refuseAfter (ms : Nat)
deriving DecidableEq, Repr

inductive StoreFailure where
  | refused
  | timedOut
  | unreadable
  | notRetained (fault : RetentionFault)
deriving DecidableEq, Repr

structure TraceStore where
  backend : Backend
  /-- What disturbs the operations to come; nothing does after the last entry. -/
  script : Option (List Disturbance)

/-- A save that looks for an instant past the end of the clock gives no answer, but ends the
program. -/
def StoreFailure.breaksOff : Except StoreFailure Unit → Bool
  | .error (.notRetained .pastEndOfClock) => true
  | _ => false

namespace TraceStore

def memory (now : Timestamp) : TraceStore :=
  ⟨.memory (MemoryStore.empty SweepSchedule.standardInterval now), none⟩

def durable (now : Timestamp) : TraceStore :=
  ⟨.durable (DurableStore.empty .json SweepSchedule.standardInterval now), none⟩

def disturbed (script : List Disturbance) (now : Timestamp) : TraceStore :=
  ⟨.memory (MemoryStore.empty SweepSchedule.standardInterval now), some script⟩

/-- The name of the kind of store. -/
def label (s : TraceStore) : String :=
  match s.script, s.backend with
  | some _, _ => "flaky"
  | none, .memory _ => "memory"
  | none, .durable _ => "sled"

/-- What becomes of the next operation if it may take so long, and how long it takes. -/
inductive Admission where
  | carriedOut
  | failed (f : StoreFailure)
deriving DecidableEq, Repr

def admission (limit : Nat) : Disturbance → Admission × Nat
  | .proceed => (.carriedOut, 0)
  | .refuse => (.failed .refused, 0)
  | .stall ms => if ms ≤ limit then (.carriedOut, ms) else (.failed .timedOut, limit)
  | .refuseAfter ms => if ms ≤ limit then (.failed .refused, ms) else (.failed .timedOut, limit)

/-- Takes the next entry of the script. -/
def nextAdmission (s : TraceStore) (limit : Nat) : Admission × Nat × TraceStore :=
  match s.script with
  | some (d :: rest) =>
    let (a, ms) := admission limit d
    (a, ms, { s with script := some rest })
  | _ => (.carriedOut, 0, s)

def load (s : TraceStore) (id : RequestId) (now : Timestamp) :
    Except StoreFailure (Option RequestTrace) × TraceStore :=
  match s.backend with
  | .memory m =>
    let (t, m) := m.load id now
    (.ok t, { s with backend := .memory m })
  | .durable d =>
    match d.load id now with
    | (.ok t, d) => (.ok t, { s with backend := .durable d })
    | (.error _, d) => (.error .unreadable, { s with backend := .durable d })

def save (s : TraceStore) (trace : RequestTrace) (ttl : Span) (now : Timestamp) :
    Except StoreFailure Unit × TraceStore :=
  match s.backend with
  | .memory m =>
    match m.save trace ttl now with
    | .ok m => (.ok (), { s with backend := .memory m })
    | .error f => (.error (.notRetained f), s)
  | .durable d =>
    match d.save trace ttl now with
    | .ok d => (.ok (), { s with backend := .durable d })
    | .error f => (.error (.notRetained f), s)

end TraceStore

end RollCall
