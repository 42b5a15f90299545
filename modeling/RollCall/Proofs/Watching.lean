import RollCall.Proofs.Relay
import RollCall.Proofs.Replies

set_option autoImplicit false

/-!
How a relay watches its channel. It reads until a message holds the marker, the channel breaks, a
wait is cut off or the deadline has come; what it has seen, noted and found are functions of what it
has read.
-/
namespace RollCall

/-- The marker is found in the text of a message. -/
def Message.Holds (marker : String) (m : Message) : Prop :=
  marker.toList <:+: m.body.hopText.toList

theorem holds_iff {marker text : List Char} : holds marker text = true ↔ marker <:+: text := by
  induction text with
  | nil => simp [holds]
  | cons c cs ih =>
    rw [holds, Bool.or_eq_true, ih, List.isPrefixOf_iff_prefix]
    exact List.infix_cons_iff.symm

/--
What was found among messages that were read until one held the marker: nothing, or the text of the
last of them.
-/
inductive Sighting (marker : String) : List Message → Option String → Prop
  | unseen {ms : List Message} (silent : ∀ m ∈ ms, ¬ m.Holds marker) : Sighting marker ms none
  | seen {before : List Message} {m : Message} (silent : ∀ k ∈ before, ¬ k.Holds marker)
      (holds : m.Holds marker) : Sighting marker (before ++ [m]) (some m.body.hopText)

theorem Sighting.cons {marker : String} {m : Message} {ms : List Message} {found : Option String}
    (unmarked : ¬ m.Holds marker) (later : Sighting marker ms found) :
    Sighting marker (m :: ms) found := by
  cases later with
  | unseen silent => exact .unseen (List.forall_mem_cons.2 ⟨unmarked, silent⟩)
  | @seen before n silent holds =>
    have earlier : ∀ k ∈ m :: before, ¬ k.Holds marker := List.forall_mem_cons.2 ⟨unmarked, silent⟩
    exact .seen earlier holds

namespace Watch

/-- What one who watches reads, so many times at most, and what comes of it. -/
inductive Reads : Nat → Watch → Channel → World → List Reading → Watch → Channel → World → Prop
  /-- It may not be read any more. -/
  | weary (s : Watch) (c : Channel) (w : World) : Reads 0 s c w [] s c w
  | late {n : Nat} {s : Watch} {c : Channel} {w : World} (late : s.deadline ≤ w.now) :
      Reads (n + 1) s c w [] s c w
  | cutOff {n : Nat} {s : Watch} {c c' : Channel} {w w' : World} (early : w.now < s.deadline)
      (read : w.receive c s.deadline = (.cutOff, c', w')) :
      Reads (n + 1) s c w [.cutOff] s c' w'
  | broken {n : Nat} {s : Watch} {c c' : Channel} {w w' : World} {e : Error}
      (early : w.now < s.deadline) (read : w.receive c s.deadline = (.failed e, c', w')) :
      Reads (n + 1) s c w [.failed e] { s with notes := s.notes ++ [FanOut.brokenNote e] } c' w'
  | marked {n : Nat} {s : Watch} {c c' : Channel} {w w' : World} {m : Reply}
      (early : w.now < s.deadline) (read : w.receive c s.deadline = (.message m, c', w'))
      (holds : m.message.Holds s.marker) :
      Reads (n + 1) s c w [.message m] (s.see m w').1 c' (s.see m w').2
  | idle {n : Nat} {s s' : Watch} {c c' c'' : Channel} {w w' w'' : World} {log : List Reading}
      (early : w.now < s.deadline) (read : w.receive c s.deadline = (.nothing, c', w'))
      (rest : Reads n s c' w' log s' c'' w'') : Reads (n + 1) s c w (.nothing :: log) s' c'' w''
  | hop {n : Nat} {s s' : Watch} {c c' c'' : Channel} {w w' w'' : World} {m : Reply}
      {log : List Reading} (early : w.now < s.deadline)
      (read : w.receive c s.deadline = (.message m, c', w')) (unmarked : ¬ m.message.Holds s.marker)
      (rest : Reads n (s.see m w').1 c' (s.see m w').2 log s' c'' w'') :
      Reads (n + 1) s c w (.message m :: log) s' c'' w''

variable {n : Nat} {s s' : Watch} {c c' : Channel} {w w' : World} {log : List Reading}

/-- A message is found to hold the marker exactly if it does. -/
theorem isSome_terminal_see (s : Watch) (m : Reply) (w : World) :
    (s.see m w).1.terminal.isSome = true ↔ m.message.Holds s.marker := by
  show (if holds s.marker.toList m.body.hopText.toList then some m.body.hopText else none).isSome =
    true ↔ _
  rw [Message.Holds, Reply.body_message, ← holds_iff]
  split <;> simp [*]

theorem terminal_see {m : Reply} (marked : m.message.Holds s.marker) (w : World) :
    (s.see m w).1.terminal = some m.body.hopText :=
  if_pos (holds_iff.2 marked)

theorem terminal_see_of_not {m : Reply} (unmarked : ¬ m.message.Holds s.marker) (w : World) :
    (s.see m w).1.terminal = none :=
  if_neg (mt holds_iff.1 unmarked)

/-- What is executed is such a reading. -/
theorem readOn_reads (n : Nat) (c : Channel) (s : Watch) (w : World) :
    ∃ log, Reads n s c w log (readOn n c s w).2.1 (readOn n c s w).1 (readOn n c s w).2.2 := by
  induction n generalizing c s w with
  | zero => exact ⟨[], .weary s c w⟩
  | succ n ih =>
    rw [readOn]
    by_cases late : s.deadline ≤ w.now
    · rw [if_pos late]
      exact ⟨[], .late late⟩
    · have early : w.now < s.deadline := Nat.lt_of_not_le late
      rw [if_neg late]
      rcases read : w.receive c s.deadline with ⟨reading, c', w'⟩
      cases reading with
      | cutOff => exact ⟨_, .cutOff early read⟩
      | failed e => exact ⟨_, .broken early read⟩
      | nothing =>
        obtain ⟨log, rest⟩ := ih c' s w'
        exact ⟨_, .idle early read rest⟩
      | message m =>
        dsimp only
        by_cases marked : m.message.Holds s.marker
        · rw [if_pos ((isSome_terminal_see s m w').2 marked)]
          exact ⟨_, .marked early read marked⟩
        · rw [if_neg (mt (isSome_terminal_see s m w').1 marked)]
          obtain ⟨log, rest⟩ := ih c' (s.see m w').1 (s.see m w').2
          exact ⟨_, .hop early read marked rest⟩

structure SameRelay (s s' : Watch) : Prop where
  coordinator : s'.coordinator = s.coordinator
  requestId : s'.requestId = s.requestId
  marker : s'.marker = s.marker
  deadline : s'.deadline = s.deadline

theorem Reads.sameRelay (reads : Reads n s c w log s' c' w') : SameRelay s s' := by
  induction reads with
  | weary => exact ⟨rfl, rfl, rfl, rfl⟩
  | late => exact ⟨rfl, rfl, rfl, rfl⟩
  | cutOff => exact ⟨rfl, rfl, rfl, rfl⟩
  | broken => exact ⟨rfl, rfl, rfl, rfl⟩
  | marked => exact ⟨rfl, rfl, rfl, rfl⟩
  | idle _ _ _ ih => exact ih
  | hop _ _ _ _ ih => exact ⟨ih.coordinator, ih.requestId, ih.marker, ih.deadline⟩

/-- Every message that was read is a hop. -/
theorem Reads.hops (reads : Reads n s c w log s' c' w') :
    s'.hops.map Reply.message = s.hops.map Reply.message ++ Reading.messages log := by
  have seen (s : Watch) (m : Reply) (w : World) :
      (s.see m w).1.hops.map Reply.message = s.hops.map Reply.message ++ [m.message] :=
    List.map_append
  induction reads with
  | weary => exact (List.append_nil _).symm
  | late => exact (List.append_nil _).symm
  | cutOff => exact (List.append_nil _).symm
  | broken => exact (List.append_nil _).symm
  | marked => exact seen _ _ _
  | idle _ _ _ ih => exact ih
  | hop _ _ _ _ ih =>
    rw [ih, seen, List.append_assoc]
    rfl

/-- The only note that is added is that of the error at which the channel broke. -/
theorem Reads.notes (reads : Reads n s c w log s' c' w') :
    s'.notes = s.notes ++ ((log.findSome? Reading.fault?).map FanOut.brokenNote).toList := by
  induction reads with
  | weary => exact (List.append_nil _).symm
  | late => exact (List.append_nil _).symm
  | cutOff => exact (List.append_nil _).symm
  | broken => rfl
  | marked => exact (List.append_nil _).symm
  | idle _ _ _ ih => exact ih
  | hop _ _ _ _ ih => exact ih

/-- Reading ends with the first message that holds the marker. -/
theorem Reads.sighting (reads : Reads n s c w log s' c' w') (fresh : s.terminal = none) :
    Sighting s.marker (Reading.messages log) s'.terminal := by
  have nothing (s : Watch) (fresh : s.terminal = none) : Sighting s.marker [] s.terminal := by
    rw [fresh]
    exact .unseen (by simp)
  induction reads with
  | weary => exact nothing _ fresh
  | late => exact nothing _ fresh
  | cutOff => exact nothing _ fresh
  | broken => exact nothing _ fresh
  | @marked _ s _ _ _ _ _ _ _ holds =>
    rw [terminal_see holds]
    have first : ∀ k ∈ ([] : List Message), ¬ k.Holds s.marker := by simp
    exact .seen first holds
  | idle _ _ _ ih => exact ih fresh
  | hop _ _ unmarked _ ih => exact (ih (terminal_see_of_not unmarked _)).cons unmarked

/-- When the marker has been found the channel has not broken. -/
theorem Reads.fault_of_terminal (reads : Reads n s c w log s' c' w') (fresh : s.terminal = none)
    (found : s'.terminal ≠ none) : log.findSome? Reading.fault? = none := by
  induction reads with
  | weary => rfl
  | late => rfl
  | cutOff => rfl
  | broken => exact absurd fresh found
  | marked => rfl
  | idle _ _ _ ih => exact ih fresh found
  | hop _ _ unmarked _ ih => exact ih (terminal_see_of_not unmarked _) found

end Watch

end RollCall
