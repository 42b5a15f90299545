import RollCall.Error
import RollCall.Text.Blank
import RollCall.Text.Quoted
import RollCall.Time.Span
import RollCall.Wire.Basic

set_option autoImplicit false

/-!
The settings that the dispatcher, the broadcasts and the relays share, and which of them are
acceptable: a coordinator that is not blank, and no length of time that is zero.
-/
namespace RollCall

structure Settings where
  /-- The label of the coordinator's own steps. -/
  coordinator : String := "coordinator"
  /-- How long a broadcast waits for replies when it is not told, in milliseconds. -/
  broadcastDeadlineMs : UInt64 := 30000
  /-- How long one unicast exchange may take, in milliseconds. -/
  dispatchTimeoutMs : UInt64 := 120000
  /-- How long a relay waits for its marker when it is not told, in milliseconds. -/
  relayDeadlineMs : UInt64 := 60000
  /-- How long traces are kept, in seconds. -/
  traceTtlSecs : UInt64 := 86400
  /-- How long one operation of the trace store may take, in milliseconds. -/
  traceStoreTimeoutMs : UInt64 := 100
  /-- What the topics of channels begin with. -/
  topicPrefix : String := "switchboard"
deriving DecidableEq, Repr

inductive SettingsFault where
  | blankCoordinator
  | zero (field : String)
deriving DecidableEq, Repr

def SettingsFault.message : SettingsFault → String
  | .blankCoordinator => "coordinator label must not be empty"
  | .zero field => field ++ " must be greater than zero"

def SettingsFault.toError (f : SettingsFault) : Error := .config f.message

namespace Settings

def standard : Settings := {}

/-- The lengths of time with their names, in the order in which they are checked. -/
def lengths (s : Settings) : List (String × UInt64) :=
  [("broadcast_deadline_ms", s.broadcastDeadlineMs),
    ("dispatch_timeout_ms", s.dispatchTimeoutMs),
    ("relay_deadline_ms", s.relayDeadlineMs),
    ("trace_ttl_secs", s.traceTtlSecs),
    ("trace_store_timeout_ms", s.traceStoreTimeoutMs)]

def fault? (s : Settings) : Option SettingsFault :=
  if Text.isBlank s.coordinator then some .blankCoordinator
  else (s.lengths.find? fun l => l.2 == 0).map fun l => .zero l.1

theorem fault?_eq_none_iff {s : Settings} :
    s.fault? = none ↔ Text.isBlank s.coordinator = false ∧ ∀ l ∈ s.lengths, l.2 ≠ 0 := by
  unfold fault?
  split
  · rename_i blank
    simp [blank]
  · rename_i named
    simp [named, List.find?_eq_none]

def validate (s : Settings) : Except SettingsFault Unit :=
  match s.fault? with
  | some f => .error f
  | none => .ok ()

def withCoordinator (s : Settings) (label : String) : Settings := { s with coordinator := label }

/-- Retention in whole seconds, at least one. -/
def withTraceTtl (s : Settings) (ttl : Span) : Settings :=
  { s with traceTtlSecs := if ttl.secs = 0 then 1 else ttl.secs }

/-- The unicast timeout in whole milliseconds, of which the low 64 bits are kept. -/
def withDispatchTimeout (s : Settings) (timeout : Span) : Settings :=
  { s with dispatchTimeoutMs := UInt64.ofNat timeout.millis }

def broadcastDeadline (s : Settings) : Span := Span.ofMillis s.broadcastDeadlineMs

def dispatchTimeout (s : Settings) : Span := Span.ofMillis s.dispatchTimeoutMs

def relayDeadline (s : Settings) : Span := Span.ofMillis s.relayDeadlineMs

def traceTtl (s : Settings) : Span := Span.ofSecs s.traceTtlSecs

def traceStoreTimeout (s : Settings) : Span := Span.ofMillis s.traceStoreTimeoutMs

/-- All fields in the order in which they are declared. -/
def description (s : Settings) : String :=
  Text.described "SwitchboardConfig"
    [("coordinator", Text.quoted s.coordinator),
      ("broadcast_deadline_ms", toString s.broadcastDeadlineMs),
      ("dispatch_timeout_ms", toString s.dispatchTimeoutMs),
      ("relay_deadline_ms", toString s.relayDeadlineMs),
      ("trace_ttl_secs", toString s.traceTtlSecs),
      ("trace_store_timeout_ms", toString s.traceStoreTimeoutMs),
      ("topic_prefix", Text.quoted s.topicPrefix)]

def toJson (s : Settings) : Json :=
  .object [("broadcast_deadline_ms", Wire.word s.broadcastDeadlineMs),
    ("coordinator", .string s.coordinator),
    ("dispatch_timeout_ms", Wire.word s.dispatchTimeoutMs),
    ("relay_deadline_ms", Wire.word s.relayDeadlineMs),
    ("topic_prefix", .string s.topicPrefix),
    ("trace_store_timeout_ms", Wire.word s.traceStoreTimeoutMs),
    ("trace_ttl_secs", Wire.word s.traceTtlSecs)]

/-- The names of the fields, in the order in which they are declared. -/
def fieldNames : List String :=
  ["coordinator", "broadcast_deadline_ms", "dispatch_timeout_ms", "relay_deadline_ms",
    "trace_ttl_secs", "trace_store_timeout_ms", "topic_prefix"]

/-- A field that is not given has its standard value. -/
def ofJson? (v : Json) : Option Settings :=
  let d := standard
  match Wire.slots? fieldNames v with
  | some [coordinator, broadcast, dispatch, relay, ttl, store, topic] => do
    let coordinator ← Wire.defaulted d.coordinator Wire.string? coordinator
    let broadcast ← Wire.defaulted d.broadcastDeadlineMs Wire.word? broadcast
    let dispatch ← Wire.defaulted d.dispatchTimeoutMs Wire.word? dispatch
    let relay ← Wire.defaulted d.relayDeadlineMs Wire.word? relay
    let ttl ← Wire.defaulted d.traceTtlSecs Wire.word? ttl
    let store ← Wire.defaulted d.traceStoreTimeoutMs Wire.word? store
    let topic ← Wire.defaulted d.topicPrefix Wire.string? topic
    return ⟨coordinator, broadcast, dispatch, relay, ttl, store, topic⟩
  | _ => none

end Settings

end RollCall
