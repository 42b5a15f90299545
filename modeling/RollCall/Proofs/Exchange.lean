import RollCall.Dispatch
import RollCall.Proofs.Alike
import RollCall.Proofs.Bookkeeping
import RollCall.Proofs.Partition

set_option autoImplicit false

/-!
A unicast exchange and its traces. The recipient's answer alone decides what comes of an exchange;
the store, however it behaves, only adds the time of its own four operations.
-/
namespace RollCall

/-- An answer as the transport gives it, with the time that it takes; without one it takes
forever. -/
abbrev TimedAnswer := Option (Nat × Except Error ReplyBody)

namespace TimedAnswer

def within (limit : Nat) : TimedAnswer → Option (Except Error ReplyBody)
  | some (ms, result) => if ms ≤ limit then some result else none
  | none => none

def wait (limit : Nat) : TimedAnswer → Nat
  | some (ms, _) => min ms limit
  | none => limit

theorem wait_le (limit : Nat) (a : TimedAnswer) : a.wait limit ≤ limit := by
  cases a with
  | none => exact Nat.le_refl limit
  | some timed => exact Nat.min_le_right _ _

end TimedAnswer

/-- Waiting from an instant for so long is waiting until the answer comes or the time is over. -/
theorem World.send_spec (recipient : RecipientId) (request : Request) (limit : Nat) (w : World) :
    (w.send recipient request (w.now + limit)).1 =
        TimedAnswer.within limit (w.transport.answer? recipient request).1 ∧
      (w.send recipient request (w.now + limit)).2.now =
        w.now + TimedAnswer.wait limit (w.transport.answer? recipient request).1 := by
  have cutOff : (w.clock.waitUntil (w.now + limit)).now = w.now + limit := by
    rw [Clock.now_waitUntil]
    exact Nat.max_eq_right (Nat.le_add_right _ _)
  unfold send
  rcases w.transport.answer? recipient request with ⟨answer, t⟩
  cases answer with
  | none => exact ⟨rfl, cutOff⟩
  | some timed =>
    obtain ⟨ms, result⟩ := timed
    have start : ({ w.log (.send recipient request.payload) with transport := t } : World).now =
        w.now := rfl
    dsimp only
    rw [start]
    by_cases inTime : ms ≤ limit
    · rw [if_pos (Nat.add_le_add_left inTime w.now)]
      refine ⟨(if_pos inTime).symm, ?_⟩
      rw [TimedAnswer.wait, Nat.min_eq_left inTime]
      exact Clock.now_wait w.clock ms
    · have late : ¬ w.now + ms ≤ w.now + limit := by omega
      rw [if_neg late]
      refine ⟨(if_neg inTime).symm, ?_⟩
      rw [TimedAnswer.wait, Nat.min_eq_right (Nat.le_of_not_le inTime)]
      exact cutOff

theorem World.store_send (recipient : RecipientId) (request : Request) (limit : Nat) (w : World) :
    (w.send recipient request limit).2.journal.store = w.journal.store := by
  unfold send
  rcases w.transport.answer? recipient request with ⟨answer, t⟩
  cases answer with
  | none => rfl
  | some timed =>
    dsimp only
    split
    · rfl
    · rfl

def World.exchangeRehearsal (script : List Disturbance) : World :=
  { rehearsal script with transport := .playback ⟨[⟨20, .ok (.payload (.string "yes"))⟩], []⟩ }

namespace Coordinator

variable (c : Coordinator) (timeout : Span) {recipient : RecipientId} {request : Request}

theorem dispatch_of_refused {refusal : Refusal} (w : World)
    (refused : dispatchRefusal? recipient request = some refusal) :
    c.dispatch timeout recipient request w = (.error (Error.ofRefusal refusal), w) := by
  simp only [dispatch, refused]

/-- What the caller is told depends on the recipient's answer alone. -/
theorem dispatch_result (w : World) (accepted : dispatchRefusal? recipient request = none) :
    (c.dispatch timeout recipient request w).1 = exchangeResult recipient timeout
      (TimedAnswer.within timeout.millis (w.transport.answer? recipient request).1) := by
  obtain ⟨received, -⟩ := World.send_spec recipient request timeout.millis
    (c.startSteps request.requestId [c.exchangeLabel, recipient.text] w).2
  simp only [dispatch, accepted]
  exact congrArg (exchangeResult recipient timeout) received

/-- Steps are opened, the answer is awaited and the steps are closed, one after the other. -/
theorem dispatch_elapsed (w : World) (accepted : dispatchRefusal? recipient request = none) :
    ∃ opening closing, opening ≤ 2 * c.recorder.storeTimeout.millis ∧
      closing ≤ 2 * c.recorder.storeTimeout.millis ∧
      (c.dispatch timeout recipient request w).2.now = w.now + opening +
        TimedAnswer.wait timeout.millis (w.transport.answer? recipient request).1 + closing ∧
      (c.recorder.IsPrompt w.journal → opening = 0 ∧ closing = 0) := by
  have opened := c.startSteps_within request.requestId [c.exchangeLabel, recipient.text] w
  have openedAtOnce := c.startSteps_timeless request.requestId [c.exchangeLabel, recipient.text] w
  have transport :
      (c.startSteps request.requestId [c.exchangeLabel, recipient.text] w).2.transport =
        w.transport := rfl
  simp only [dispatch, accepted]
  generalize c.startSteps request.requestId [c.exchangeLabel, recipient.text] w = started at *
  obtain ⟨steps, v⟩ := started
  dsimp only at opened openedAtOnce transport ⊢
  have waited := (World.send_spec recipient request timeout.millis v).2
  have stored := World.store_send recipient request (v.now + timeout.millis) v
  rw [transport] at waited
  generalize v.send recipient request (v.now + timeout.millis) = sent at *
  obtain ⟨answer, u⟩ := sent
  dsimp only at waited stored ⊢
  generalize steps.reverse.map _ = closes
  have closed := c.endSteps_within request.requestId closes u
  have closedAtOnce := c.endSteps_timeless request.requestId closes u
  generalize c.endSteps request.requestId closes u = ended at *
  have wv : w.now ≤ v.now ∧ v.now ≤ w.now + 2 * c.recorder.storeTimeout.millis :=
    ⟨opened.le, opened.most⟩
  have ue : u.now ≤ ended.now ∧ ended.now ≤ u.now + 2 * c.recorder.storeTimeout.millis :=
    ⟨closed.le, closed.most⟩
  refine ⟨v.now - w.now, ended.now - u.now, by omega, by omega, by omega, ?_⟩
  intro prompt
  obtain ⟨promptLater, openedMoment⟩ := openedAtOnce prompt
  have promptAtEnd : c.recorder.IsPrompt u.journal := by
    unfold Recorder.IsPrompt
    rw [stored]
    exact promptLater
  obtain ⟨-, closedMoment⟩ := closedAtOnce promptAtEnd
  have openedNow : v.now = w.now := congrArg Moment.ms openedMoment
  have closedNow : ended.now = u.now := congrArg Moment.ms closedMoment
  exact ⟨by omega, by omega⟩

variable (recipient request)

/--
A store changes nothing of what a caller is told of an exchange, even if it refuses or is cut off.
Beside a store that takes no time it delays the call by four of its timeouts at most.
-/
theorem dispatch_undisturbed {w v : World} (alike : w.Alike v)
    (prompt : c.recorder.IsPrompt v.journal) :
    (c.dispatch timeout recipient request w).1 = (c.dispatch timeout recipient request v).1 ∧
      (c.dispatch timeout recipient request v).2.now ≤
        (c.dispatch timeout recipient request w).2.now ∧
      (c.dispatch timeout recipient request w).2.now ≤
        (c.dispatch timeout recipient request v).2.now + 4 * c.recorder.storeTimeout.millis ∧
      (c.dispatch timeout recipient request w).2.now ≤
        w.now + timeout.millis + 4 * c.recorder.storeTimeout.millis := by
  have now := alike.now
  cases refused : dispatchRefusal? recipient request with
  | some refusal =>
    rw [c.dispatch_of_refused timeout w refused, c.dispatch_of_refused timeout v refused]
    dsimp only
    exact ⟨rfl, Nat.le_of_eq now, by omega, by omega⟩
  | none =>
    have result : (c.dispatch timeout recipient request w).1 =
        (c.dispatch timeout recipient request v).1 := by
      rw [c.dispatch_result timeout w refused, c.dispatch_result timeout v refused, alike.transport]
    obtain ⟨opening, closing, opens, closes, elapsed, -⟩ := c.dispatch_elapsed timeout w refused
    obtain ⟨opening', closing', -, -, elapsed', atOnce⟩ := c.dispatch_elapsed timeout v refused
    obtain ⟨rfl, rfl⟩ := atOnce prompt
    rw [alike.transport] at elapsed'
    have waited := TimedAnswer.wait_le timeout.millis (w.transport.answer? recipient request).1
    exact ⟨result, by omega, by omega, by omega⟩

/-- The answer comes just in time, whether the store takes no time or is slow, refuses and
stalls. -/
theorem dispatch_undisturbed_rehearsal :
    (rehearsal.dispatch (Span.ofMillis 20) ⟨"b"⟩ ⟨⟨"r"⟩, .string "hi"⟩
        (World.exchangeRehearsal [.stall 3, .refuseAfter 4, .stall 9])).1 = .ok "yes" ∧
      (rehearsal.dispatch (Span.ofMillis 20) ⟨"b"⟩ ⟨⟨"r"⟩, .string "hi"⟩
        (World.exchangeRehearsal [.stall 3, .refuseAfter 4, .stall 9])).2.now ≤ 0 + 20 + 4 * 5 := by
  have alike : (World.exchangeRehearsal [.stall 3, .refuseAfter 4, .stall 9]).Alike
      (World.exchangeRehearsal []) := ⟨rfl, rfl, rfl, rfl, rfl, rfl⟩
  have prompt : rehearsal.recorder.IsPrompt (World.exchangeRehearsal []).journal := by
    intro d member
    cases member
  obtain ⟨same, -, -, most⟩ := rehearsal.dispatch_undisturbed (Span.ofMillis 20) ⟨"b"⟩
    ⟨⟨"r"⟩, .string "hi"⟩ alike prompt
  exact ⟨same.trans rfl, most⟩

end Coordinator

end RollCall
