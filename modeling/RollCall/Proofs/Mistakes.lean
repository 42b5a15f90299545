import RollCall.Proofs.Exchange
import RollCall.Proofs.Relaying

set_option autoImplicit false

/-!
Mistakes of callers. Each kind of call looks at its arguments first and refuses those that are
mistaken, before anything is sent or stored; whatever goes wrong later is part of its result.
-/
namespace RollCall

def RecipientId.Blank (r : RecipientId) : Prop := ∀ ch ∈ r.text.toList, Text.isSpace ch = true

inductive Json.Void : Json → Prop
  | null : Void .null
  | blank {s : String} (spaces : ∀ ch ∈ s.toList, Text.isSpace ch = true) : Void (.string s)

/-- What one who asks several recipients can get wrong. -/
inductive Mistaken (recipients : List RecipientId) (payload : Json) (deadline : Nat) : Prop
  | nobody (none : recipients = [])
  | blank {r : RecipientId} (listed : r ∈ recipients) (blank : r.Blank)
  | noTime (zero : deadline = 0)
  | nothing (void : payload.Void)

theorem RecipientId.isBlank_iff {r : RecipientId} : r.isBlank = true ↔ r.Blank :=
  Text.isBlank_iff

theorem Json.isEmptyPayload_iff {v : Json} : v.isEmptyPayload = true ↔ v.Void := by
  constructor
  · intro empty
    cases v with
    | null => exact .null
    | string s => exact .blank (Text.isBlank_iff.1 empty)
    | bool b => cases empty
    | int n => cases empty
    | double x => cases empty
    | array items => cases empty
    | object fields => cases empty
  · intro void
    cases void with
    | null => rfl
    | blank spaces => exact Text.isBlank_iff.2 spaces

theorem not_mistaken_iff {recipients : List RecipientId} {payload : Json} {deadline : Nat} :
    ¬ Mistaken recipients payload deadline ↔ recipients ≠ [] ∧
      (∀ r ∈ recipients, r.isBlank = false) ∧ deadline ≠ 0 ∧ payload.isEmptyPayload = false := by
  constructor
  · intro sound
    refine ⟨fun none => sound (.nobody none), ?_, fun zero => sound (.noTime zero), ?_⟩
    · intro r listed
      rw [← Bool.not_eq_true, RecipientId.isBlank_iff]
      exact fun blank => sound (.blank listed blank)
    · rw [← Bool.not_eq_true, Json.isEmptyPayload_iff]
      exact fun void => sound (.nothing void)
  · intro ⟨asked, named, positive, something⟩ mistaken
    cases mistaken with
    | nobody none => exact asked none
    | blank listed blank =>
      have isBlank := RecipientId.isBlank_iff.2 blank
      simp [named _ listed] at isBlank
    | noTime zero => exact positive zero
    | nothing void => simp [Json.isEmptyPayload_iff.2 void] at something

theorem broadcastRefusal?_eq_none_iff {recipients : List RecipientId} {payload : Json}
    {deadline : Nat} :
    broadcastRefusal? recipients payload deadline = none ↔
      ¬ Mistaken recipients payload deadline := by
  rw [not_mistaken_iff]
  unfold broadcastRefusal?
  by_cases empty : recipients = []
  · simp [empty]
  · cases position : recipients.findIdx? RecipientId.isBlank with
    | some i =>
      obtain ⟨inside, blank, -⟩ := List.findIdx?_eq_some_iff_getElem.1 position
      have listed : ¬ ∀ r ∈ recipients, r.isBlank = false := by
        intro named
        simp [named _ (List.getElem_mem inside)] at blank
      simp [empty, listed]
    | none =>
      have named : ∀ r ∈ recipients, r.isBlank = false := List.findIdx?_eq_none_iff.1 position
      by_cases zero : deadline = 0
      · simp [empty, zero]
      · simpa [empty, zero] using fun _ => named

theorem relayRefusal?_eq_none_iff {seeds : List RecipientId} {payload : Json} {marker : String}
    {deadline : Nat} :
    relayRefusal? seeds payload marker deadline = none ↔
      ¬ (Mistaken seeds payload deadline ∨ marker = "") := by
  rw [not_or, not_mistaken_iff]
  unfold relayRefusal?
  by_cases empty : seeds = []
  · simp [empty]
  · by_cases named : ∀ r ∈ seeds, r.isBlank = false
    · have none : seeds.any RecipientId.isBlank = false := by
        rw [List.any_eq_false]
        simpa using named
      by_cases zero : deadline = 0
      · simp [empty, none, zero]
      · by_cases unmarked : marker = ""
        · simp [empty, none, zero, unmarked]
        · simpa [empty, none, zero, unmarked] using fun _ => named
    · have some : seeds.any RecipientId.isBlank = true := by simpa using named
      simp [empty, some, named]

theorem Coordinator.dispatchRefusal?_eq_none_iff {recipient : RecipientId} {request : Request} :
    dispatchRefusal? recipient request = none ↔ ¬ (recipient.Blank ∨ request.payload.Void) := by
  rw [← RecipientId.isBlank_iff, ← Json.isEmptyPayload_iff]
  unfold dispatchRefusal? Request.hasEmptyPayload
  by_cases blank : recipient.isBlank = true
  · simp [blank]
  · by_cases void : request.payload.isEmptyPayload = true
    · simp [blank, void]
    · simp [blank, void]

/-- A call is refused exactly for mistakes of its caller, and a refused call has done nothing. -/
structure RefusesOnly {α : Type} (mistaken : Prop) (w : World) (call : Except Error α × World) :
    Prop where
  refused_iff : (∃ what, call.1 = .error (.invalidInput what)) ↔ mistaken
  untouched : ∀ what, call.1 = .error (.invalidInput what) → call.2 = w

/-- Nothing but a refusal is an error of the call. -/
def FailsOnlyRefused {α : Type} (call : Except Error α × World) : Prop :=
  ∀ e, call.1 = .error e → ∃ what, e = .invalidInput what

section

variable {α : Type} {mistaken : Prop} {w : World} {call : Except Error α × World}

/-- A call that gives back a refusal and the world as it was. -/
theorem RefusesOnly.of_refused {refusal : Refusal} (mistake : mistaken)
    (refused : call = (.error (.ofRefusal refusal), w)) :
    RefusesOnly mistaken w call ∧ FailsOnlyRefused call := by
  subst refused
  refine ⟨⟨⟨fun _ => mistake, fun _ => ⟨_, rfl⟩⟩, fun _ _ => rfl⟩, ?_⟩
  intro e failed
  cases failed
  exact ⟨_, rfl⟩

/-- A call that looks for mistakes first, and has a result if there is none. -/
theorem RefusesOnly.of_refusal? {refusal? : Option Refusal} (sound : refusal? = none ↔ ¬ mistaken)
    (refused : ∀ refusal, refusal? = some refusal → call = (.error (.ofRefusal refusal), w))
    (accepted : refusal? = none → ∃ a, call.1 = .ok a) :
    RefusesOnly mistaken w call ∧ FailsOnlyRefused call := by
  by_cases mistake : mistaken
  · obtain ⟨refusal, found⟩ :=
      Option.ne_none_iff_exists'.1 fun none => absurd mistake (sound.1 none)
    exact RefusesOnly.of_refused mistake (refused refusal found)
  · obtain ⟨a, done⟩ := accepted (sound.2 mistake)
    have never (e : Error) : call.1 ≠ .error e := by simp [done]
    refine ⟨⟨⟨?_, fun mistake' => absurd mistake' mistake⟩, ?_⟩, ?_⟩
    · intro ⟨what, failed⟩
      exact absurd failed (never _)
    · intro what failed
      exact absurd failed (never _)
    · intro e failed
      exact absurd failed (never e)

end

/-- Whatever answer comes, an exchange does not take it for a mistake of the caller. -/
theorem Coordinator.exchangeResult_ne_invalidInput (recipient : RecipientId) (timeout : Span)
    (answer : Option (Except Error ReplyBody)) (what : String) :
    exchangeResult recipient timeout answer ≠ .error (.invalidInput what) := by
  rcases answer with _ | e | body
  · simp [exchangeResult]
  · simp [exchangeResult]
  · simp only [exchangeResult]
    generalize body.classify = said
    cases said <;> simp [Except.mapError]

namespace Coordinator

variable (c : Coordinator)

theorem broadcast_refusesOnly (recipients : List RecipientId) (payload : Json) (deadline : Nat)
    (w : World) :
    RefusesOnly (Mistaken recipients payload deadline) w
        (c.broadcast recipients payload deadline w) ∧
      FailsOnlyRefused (c.broadcast recipients payload deadline w) := by
  apply RefusesOnly.of_refusal? broadcastRefusal?_eq_none_iff
  · intro refusal refused
    simp only [broadcast, refused]
  · intro accepted
    obtain ⟨o, done, -⟩ := c.broadcast_partitions w accepted
    exact ⟨o, done⟩

theorem stream_refusesOnly (recipients : List RecipientId) (payload : Json) (deadline : Nat)
    (w : World) :
    RefusesOnly (Mistaken recipients payload deadline) w
        (c.stream recipients payload deadline w) ∧
      FailsOnlyRefused (c.stream recipients payload deadline w) := by
  apply RefusesOnly.of_refusal? broadcastRefusal?_eq_none_iff
  · intro refusal refused
    simp only [stream, refused]
  · intro accepted
    simp only [stream, accepted]
    exact ⟨_, rfl⟩

theorem relay_refusesOnly (seeds : List RecipientId) (payload : Json) (marker : String)
    (deadline : Nat) (w : World) :
    RefusesOnly (Mistaken seeds payload deadline ∨ marker = "") w
        (c.relay seeds payload marker deadline w) ∧
      FailsOnlyRefused (c.relay seeds payload marker deadline w) := by
  apply RefusesOnly.of_refusal? relayRefusal?_eq_none_iff
  · intro refusal refused
    exact c.relay_of_refused refused
  · intro accepted
    obtain ⟨s, elapsed, done⟩ := c.exists_relay w accepted
    exact ⟨_, done⟩

theorem dispatch_refusesOnly (timeout : Span) (recipient : RecipientId) (request : Request)
    (w : World) :
    RefusesOnly (recipient.Blank ∨ request.payload.Void) w
      (c.dispatch timeout recipient request w) := by
  by_cases mistake : recipient.Blank ∨ request.payload.Void
  · obtain ⟨refusal, found⟩ :=
      Option.ne_none_iff_exists'.1 fun none => absurd mistake (dispatchRefusal?_eq_none_iff.1 none)
    exact (RefusesOnly.of_refused mistake (c.dispatch_of_refused timeout w found)).1
  · have accepted := dispatchRefusal?_eq_none_iff.2 mistake
    have never (what : String) :
        (c.dispatch timeout recipient request w).1 ≠ .error (.invalidInput what) := by
      rw [c.dispatch_result timeout w accepted]
      exact exchangeResult_ne_invalidInput recipient timeout _ what
    refine ⟨⟨?_, fun mistake' => absurd mistake' mistake⟩, ?_⟩
    · intro ⟨what, failed⟩
      exact absurd failed (never what)
    · intro what failed
      exact absurd failed (never what)

/--
On any transport and over any store a broadcast, a stream and a relay fail exactly for mistakes of
the caller, and an exchange is refused exactly for them. A refused call leaves the world as it was:
the transport has not been used, no operation of the store has begun and no trace has changed.
-/
theorem errors_are_mistakes (recipients : List RecipientId) (payload : Json) (marker : String)
    (deadline : Nat) (timeout : Span) (recipient : RecipientId) (request : Request) (w : World) :
    (RefusesOnly (Mistaken recipients payload deadline) w
        (c.broadcast recipients payload deadline w) ∧
      FailsOnlyRefused (c.broadcast recipients payload deadline w)) ∧
    (RefusesOnly (Mistaken recipients payload deadline) w
        (c.stream recipients payload deadline w) ∧
      FailsOnlyRefused (c.stream recipients payload deadline w)) ∧
    (RefusesOnly (Mistaken recipients payload deadline ∨ marker = "") w
        (c.relay recipients payload marker deadline w) ∧
      FailsOnlyRefused (c.relay recipients payload marker deadline w)) ∧
    RefusesOnly (recipient.Blank ∨ request.payload.Void) w
      (c.dispatch timeout recipient request w) :=
  ⟨c.broadcast_refusesOnly recipients payload deadline w,
    c.stream_refusesOnly recipients payload deadline w,
    c.relay_refusesOnly recipients payload marker deadline w,
    c.dispatch_refusesOnly timeout recipient request w⟩

end Coordinator

end RollCall
