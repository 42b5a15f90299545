import RollCall.Relay.Watch

set_option autoImplicit false

/-!
The parts of a relay. It sets out, watches the channel if there is one, and closes its step.
-/
namespace RollCall

namespace Coordinator

variable (c : Coordinator) (seeds : List RecipientId) (payload : Json) (marker : String)
  (deadline : Nat)

/-- Makes the request, opens the coordinator's step and puts the request on a channel. -/
def seed (w : World) : Except World.ConnectFault Channel × Option StepId × World :=
  let (request, w) := w.newRequest payload
  let (steps, w) := c.startSteps request.requestId [c.label] w
  let (connected, w) := w.connect (c.topic "relay" request.requestId) seeds request
  (connected, steps.head?.join, w)

def watch (w : World) (since : Timestamp) (notes : List String) : Watch :=
  ⟨c, (w.newRequest payload).1.requestId, marker, w.now + deadline, since, [], none, notes⟩

variable {seeds payload marker deadline} {w w' : World} {step : Option StepId}

theorem relay_of_refused {refusal : Refusal}
    (refused : relayRefusal? seeds payload marker deadline = some refusal) :
    c.relay seeds payload marker deadline w = (.error (Error.ofRefusal refusal), w) := by
  simp only [relay, refused]

/-- Without a channel a relay is over at once. -/
theorem relay_of_fault {fault : World.ConnectFault}
    (accepted : relayRefusal? seeds payload marker deadline = none)
    (seeded : c.seed seeds payload w = (.error fault, step, w')) :
    c.relay seeds payload marker deadline w =
      (.ok ((c.watch payload marker deadline w w'.clock.reading
          [fault.relayText (c.topic "relay" (w.newRequest payload).1.requestId)]).result
            (w'.now - w.now)),
        c.endStep (w.newRequest payload).1.requestId step false w') := by
  unfold seed at seeded
  unfold relay
  rw [accepted]
  dsimp only at seeded ⊢
  generalize c.startSteps (w.newRequest payload).1.requestId [c.label] (w.newRequest payload).2 = a
    at seeded ⊢
  obtain ⟨steps, w₁⟩ := a
  dsimp only at seeded ⊢
  generalize w₁.connect (c.topic "relay" (w.newRequest payload).1.requestId) seeds
    (w.newRequest payload).1 = b at seeded ⊢
  obtain ⟨outcome, w₂⟩ := b
  cases seeded
  rfl

/-- On a channel a relay reads what comes until it has seen enough, and then gives it back. -/
theorem relay_of_channel {ch ch' : Channel} {s : Watch} {w'' : World}
    (accepted : relayRefusal? seeds payload marker deadline = none)
    (seeded : c.seed seeds payload w = (.ok ch, step, w'))
    (watched : Watch.readOn (ch.allowance w'.patience) ch
      (c.watch payload marker deadline w w'.wallClock.1 []) w'.wallClock.2 = (ch', s, w'')) :
    c.relay seeds payload marker deadline w =
      (.ok (s.result ((w''.release ch').now - w.now)),
        c.endStep (w.newRequest payload).1.requestId step s.terminal.isSome (w''.release ch')) := by
  unfold seed at seeded
  unfold relay
  rw [accepted]
  dsimp only at seeded ⊢
  generalize c.startSteps (w.newRequest payload).1.requestId [c.label] (w.newRequest payload).2 = a
    at seeded ⊢
  obtain ⟨steps, w₁⟩ := a
  dsimp only at seeded ⊢
  generalize w₁.connect (c.topic "relay" (w.newRequest payload).1.requestId) seeds
    (w.newRequest payload).1 = b at seeded ⊢
  obtain ⟨outcome, w₂⟩ := b
  cases seeded
  unfold watch at watched
  have patience : w₂.wallClock.2.patience = w₂.patience := rfl
  dsimp only at watched ⊢
  rw [patience, watched]

end Coordinator

end RollCall
