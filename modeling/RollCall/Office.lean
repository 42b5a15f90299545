import RollCall.Broadcast.Collect
import RollCall.Broadcast.Stream
import RollCall.Dispatch
import RollCall.Relay.Watch
import RollCall.Settings.Basic

set_option autoImplicit false

/-!
Calls under one set of settings. An office is opened only with a transport and with settings that
are acceptable.
-/
namespace RollCall

structure Office where
  settings : Settings
  acceptable : settings.fault? = none

namespace Office

/-- An office for a transport, if there is one and the settings are acceptable. -/
def establish (transport : Option Transport) (settings : Settings) : Except Error Office :=
  if transport.isNone then .error (.config "Switchboard transport is required")
  else
    match h : settings.fault? with
    | some f => .error f.toError
    | none => .ok ⟨settings, h⟩

theorem establish_eq_ok_iff {transport : Option Transport} {settings : Settings} {o : Office} :
    establish transport settings = .ok o ↔
      transport.isSome = true ∧ settings.fault? = none ∧ o.settings = settings := by
  unfold establish
  cases transport with
  | none => simp
  | some t =>
    obtain ⟨own, acceptable⟩ := o
    simp only [Option.isNone_some, Bool.false_eq_true, if_false, Option.isSome_some, true_and]
    split
    · rename_i f faulty
      simp [faulty]
    · rename_i sound
      simp only [Except.ok.injEq, Office.mk.injEq, sound, true_and, eq_comm]

def recorder (o : Office) : Recorder := ⟨o.settings.traceTtl, o.settings.traceStoreTimeout⟩

def coordinator (o : Office) : Coordinator :=
  ⟨o.settings.coordinator, o.settings.topicPrefix, o.recorder⟩

/-- Sends a request to one recipient, for at most the timeout of the settings. -/
def dispatch (o : Office) (recipient : RecipientId) (request : Request) (w : World) :
    Except Error String × World :=
  o.coordinator.dispatch o.settings.dispatchTimeout recipient request w

/-- The kinds of calls with what each of them goes by. -/
def descriptions (o : Office) (w : World) : List String :=
  let transport := ("transport", Text.quoted w.transport.label)
  let recorder := ("recorder", o.recorder.description w.journal.store)
  let label := ("coordinator", Text.quoted o.settings.coordinator)
  let topics := ("topic_prefix", Text.quoted o.settings.topicPrefix)
  [Text.described "Switchboard" [transport, recorder, ("config", o.settings.description)],
    Text.described "Aggregator" [transport, recorder, label, topics],
    Text.described "GroupRelay" [transport, label, topics],
    Text.described "Dispatcher" [transport, label, ("timeout", o.settings.dispatchTimeout.text)]]

end Office

def Transport.description : Transport → String
  | .network n =>
    Text.described "InMemoryTransport"
      [("participants", toString n.registry.size), ("open_channels", toString n.openChannels),
        ("offline", toString n.offline)]
  | .playback _ => ""

end RollCall
