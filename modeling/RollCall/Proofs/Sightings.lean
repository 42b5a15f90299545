import RollCall.Proofs.Network
import RollCall.Proofs.Watching

set_option autoImplicit false

/-!
What a watch is handed. With a store that takes no time the messages read are the first of those
that come before the deadline and before the channel breaks, and all of them unless the marker is
found.
-/
namespace RollCall

/-- The result of a relay to which these messages and these faults were handed out. -/
structure RelayResult.Observes (r : RelayResult) (marker : String) (ms : List Message)
    (faults : List String) : Prop where
  seen : ∀ before m after, ms = before ++ m :: after → (∀ k ∈ before, ¬ k.Holds marker) →
    m.Holds marker → r.observedHops.map Reply.message = before ++ [m] ∧
      r.terminalPayload = some m.body.hopText ∧ r.timedOut = false ∧ r.notes = []
  unseen : (∀ m ∈ ms, ¬ m.Holds marker) → r.observedHops.map Reply.message = ms ∧
    r.terminalPayload = none ∧ r.timedOut = true ∧ r.notes = faults

/-- Before the first message that holds the marker there is room for whatever does not hold it. -/
theorem Message.length_le_of_silent {marker : String} {before read whole : List Message} {m : Message}
    (first : before ++ [m] <+: whole) (come : read <+: whole)
    (silent : ∀ k ∈ read, ¬ k.Holds marker) (holds : m.Holds marker) :
    read.length ≤ before.length := by
  by_contra less
  have inside : before ++ [m] <+: read := by
    refine List.prefix_of_prefix_length_le first come ?_
    rw [List.length_append, List.length_singleton]
    omega
  exact silent m (inside.subset (by simp)) holds

/-- A message that is the first to hold the marker is the first in every longer list. -/
theorem Message.first_unique {marker : String} {before before' whole : List Message} {m m' : Message}
    (shorter : before ++ [m] <+: whole) (shorter' : before' ++ [m'] <+: whole)
    (silent : ∀ k ∈ before, ¬ k.Holds marker) (silent' : ∀ k ∈ before', ¬ k.Holds marker)
    (holds : m.Holds marker) (holds' : m'.Holds marker) : before ++ [m] = before' ++ [m'] := by
  have le := length_le_of_silent shorter ((List.prefix_append before' [m']).trans shorter') silent'
    holds
  have ge := length_le_of_silent shorter' ((List.prefix_append before [m]).trans shorter) silent
    holds'
  have length : (before ++ [m]).length = (before' ++ [m']).length := by
    simp only [List.length_append, List.length_singleton]
    omega
  exact (List.prefix_of_prefix_length_le shorter shorter' (Nat.le_of_eq length)).eq_of_length length

/--
Of messages that come, with one that is the first to hold the marker, either all up to that one have
been read and its text has been found, or only some of those before it.
-/
theorem Sighting.found_or_short {marker : String} {read before whole : List Message}
    {found : Option String} {m : Message} (sighting : Sighting marker read found)
    (come : read <+: whole) (first : before ++ [m] <+: whole)
    (silent : ∀ k ∈ before, ¬ k.Holds marker) (holds : m.Holds marker) :
    (found = some m.body.hopText ∧ read = before ++ [m]) ∨ (found = none ∧ read <+: before) := by
  cases sighting with
  | unseen silentRead =>
    have fewer := Message.length_le_of_silent first come silentRead holds
    exact Or.inr ⟨rfl, List.prefix_of_prefix_length_le come
      ((List.prefix_append before [m]).trans first) fewer⟩
  | seen silent' holds' =>
    have same := Message.first_unique come first silent' silent holds' holds
    obtain ⟨-, equal⟩ := List.append_inj' same rfl
    cases equal
    exact Or.inl ⟨rfl, same⟩

namespace Watch

variable {n : Nat} {s s' : Watch} {c c' : Channel} {w w' : World} {log : List Reading}

/--
The result of a watch, if it was handed some of these messages up to the first that holds the
marker, or without such a message all of them and this fault.
-/
theorem Reads.observes (reads : Reads n s c w log s' c' w') (fresh : s.terminal = none)
    (noHops : s.hops = []) (noNotes : s.notes = []) (fault : Option Error) {ms whole : List Message}
    (read : Reading.messages log <+: whole) (handed : ms <+: whole)
    (unseen : s'.terminal = none →
      ms <+: Reading.messages log ∧ log.findSome? Reading.fault? = fault)
    (silentAll : (∀ m ∈ ms, ¬ m.Holds s.marker) → Reading.messages log <+: ms) (elapsed : Nat) :
    (s'.result elapsed).Observes s.marker ms (fault.map FanOut.brokenNote).toList := by
  have hops : s'.hops.map Reply.message = Reading.messages log := by
    rw [reads.hops, noHops]
    rfl
  have notes := reads.notes
  rw [noNotes, List.nil_append] at notes
  have sighting := reads.sighting fresh
  have faultless := reads.fault_of_terminal fresh
  have payload : (s'.result elapsed).terminalPayload = s'.terminal := rfl
  have timedOut : (s'.result elapsed).timedOut = s'.terminal.isNone := rfl
  generalize Reading.messages log = heard at *
  generalize s'.terminal = found at *
  refine ⟨?_, ?_⟩
  · rintro before m after rfl silent holds
    have first : before ++ [m] <+: whole := by
      refine List.IsPrefix.trans ?_ handed
      exact ⟨after, by simp⟩
    rcases sighting.found_or_short read first silent holds with ⟨found', same⟩ | ⟨unfound, short⟩
    · subst found'
      have none := faultless (by simp)
      rw [none] at notes
      exact ⟨hops.trans same, payload, timedOut, notes⟩
    · -- all that was handed out has been read, and so the message with the marker
      have fewer := ((unseen unfound).1.trans short).length_le
      rw [List.length_append, List.length_cons] at fewer
      omega
  · intro silent
    have all := silentAll silent
    cases sighting with
    | unseen silentRead =>
      obtain ⟨handedRead, faults⟩ := unseen rfl
      rw [faults] at notes
      have same := all.eq_of_length (Nat.le_antisymm all.length_le handedRead.length_le)
      exact ⟨hops.trans same, payload, timedOut, notes⟩
    | @seen before' m' silent' holds' =>
      have inside : m' ∈ ms := all.subset (List.mem_append_right before' List.mem_cons_self)
      exact absurd holds' (silent m' inside)

end Watch

/-- The error at which the channel breaks, if that is before an instant. -/
def Playback.faultBefore (limit : Nat) : Nat → List ScriptedEvent → Option Error
  | _, [] => none
  | now, e :: rest =>
    if now + e.delay < limit then
      match e.reading with
      | .failed fault => some fault
      | _ => faultBefore limit (now + e.delay) rest
    else none

theorem Playback.faultBefore_of_late {limit now : Nat} (late : limit ≤ now)
    (events : List ScriptedEvent) : faultBefore limit now events = none := by
  cases events with
  | nil => rfl
  | cons e rest =>
    have after : ¬ now + e.delay < limit := by omega
    rw [faultBefore, if_neg after]

namespace Watch

/--
A watch that listens to a script over a store that takes no time, while nothing comes just at its
deadline.
-/
structure Listens (s : Watch) (script : PlaybackChannel) (w : World) : Prop where
  prompt : s.coordinator.recorder.IsPrompt w.journal
  scripted : ∃ p, w.transport = .playback p
  apart : w.now < s.deadline → s.deadline ∉ Playback.times w.now script.events

def outstanding (s : Watch) (script : PlaybackChannel) (w : World) : List Message :=
  Playback.repliesBefore s.deadline w.now script.events

def ahead (s : Watch) (script : PlaybackChannel) (w : World) : Option Error :=
  Playback.faultBefore s.deadline w.now script.events

variable {n : Nat} {s s' : Watch} {c c' : Channel} {w w' : World} {log : List Reading}
  {script : PlaybackChannel}

/-- Recording a message changes nothing of what is heard later. -/
theorem Listens.see (listens : s.Listens script w) (m : Reply) :
    (s.see m w).1.Listens script (s.see m w).2 ∧
      (s.see m w).1.outstanding script (s.see m w).2 = s.outstanding script w ∧
      (s.see m w).1.ahead script (s.see m w).2 = s.ahead script w := by
  obtain ⟨own, deadline, prompt, now⟩ := see_spec rfl listens.prompt m
  refine ⟨⟨?_, listens.scripted, ?_⟩, ?_, ?_⟩
  · rw [own]
    exact prompt
  · rw [deadline, now]
    exact listens.apart
  · unfold outstanding
    rw [deadline, now]
  · unfold ahead
    rw [deadline, now]

/-- A wait is cut off if nothing is left, and else uses the next event up. -/
theorem Listens.heard (listens : s.Listens script w) (early : w.now < s.deadline) {reading : Reading}
    (read : w.receive (.playback script) s.deadline = (reading, c', w')) :
    (reading = .cutOff ∧ s.outstanding script w = [] ∧ s.ahead script w = none) ∨
      ∃ rest : PlaybackChannel, c' = .playback rest ∧ s.Listens rest w' ∧
        rest.events.length < script.events.length ∧ reading ≠ .cutOff ∧
        (∀ e, reading = .failed e →
          s.outstanding script w = [] ∧ s.ahead script w = some e) ∧
        ((∀ e, reading ≠ .failed e) →
          s.outstanding script w = reading.message?.toList ++ s.outstanding rest w' ∧
            s.ahead script w = s.ahead rest w') := by
  obtain ⟨p, scripted⟩ := listens.scripted
  have apart := listens.apart early
  have hears := World.hears_of_receive scripted read
  cases hears with
  | @came topic publishDelay publishError e rest inTime =>
    right
    have now : ((w.log (.read e.reading)).wait e.delay).now = w.now + e.delay :=
      Clock.now_wait w.clock e.delay
    rw [Playback.times, List.mem_cons, not_or] at apart
    have before : w.now + e.delay < s.deadline := by omega
    refine ⟨_, rfl, ⟨listens.prompt, ⟨p, scripted⟩, fun _ => ?_⟩, by simp, e.reading_ne_cutOff,
      ?_, ?_⟩
    · rw [now]
      exact apart.2
    · intro fault failed
      simp only [outstanding, ahead]
      rw [Playback.repliesBefore, Playback.faultBefore, if_pos before, if_pos before, failed]
      exact ⟨rfl, rfl⟩
    · intro sound
      simp only [outstanding, ahead, now]
      rw [Playback.repliesBefore, Playback.faultBefore, if_pos before, if_pos before]
      cases came : e.reading with
      | failed fault => exact absurd came (sound fault)
      | message m => exact ⟨rfl, rfl⟩
      | nothing => exact ⟨rfl, rfl⟩
      | cutOff => exact ⟨rfl, rfl⟩
  | cutOff late =>
    left
    refine ⟨rfl, ?_⟩
    unfold outstanding ahead
    cases events : script.events with
    | nil => exact ⟨rfl, rfl⟩
    | cons e rest =>
      rw [events] at late
      have after : ¬ w.now + e.delay < s.deadline :=
        Nat.not_lt_of_le (Nat.le_of_lt (late e rfl))
      rw [Playback.repliesBefore, Playback.faultBefore, if_neg after, if_neg after]
      exact ⟨rfl, rfl⟩

/--
With an allowance for the whole script the messages read are the first of those to come, and all of
them unless the marker is found.
-/
theorem Reads.listens (reads : Reads n s c w log s' c' w') (held : c = .playback script)
    (listens : s.Listens script w) (enough : script.events.length < n) :
    Reading.messages log <+: s.outstanding script w ∧
      (s'.terminal = none → s.outstanding script w <+: Reading.messages log ∧
        log.findSome? Reading.fault? = s.ahead script w) := by
  induction reads generalizing script with
  | weary => omega
  | late late =>
    unfold outstanding ahead
    rw [Playback.repliesBefore_of_late late, Playback.faultBefore_of_late late]
    exact ⟨List.prefix_rfl, fun _ => ⟨List.prefix_rfl, rfl⟩⟩
  | cutOff early read =>
    subst held
    rcases listens.heard early read with ⟨-, nothing, sound⟩ | ⟨_, -, -, -, came, -⟩
    · rw [nothing, sound]
      exact ⟨List.prefix_rfl, fun _ => ⟨List.prefix_rfl, rfl⟩⟩
    · exact absurd rfl came
  | broken early read =>
    subst held
    rcases listens.heard early read with ⟨cut, -⟩ | ⟨_, -, -, -, -, broke, -⟩
    · cases cut
    · obtain ⟨nothing, fault⟩ := broke _ rfl
      rw [nothing, fault]
      exact ⟨List.prefix_rfl, fun _ => ⟨List.prefix_rfl, rfl⟩⟩
  | marked early read holds =>
    subst held
    rcases listens.heard early read with ⟨cut, -⟩ | ⟨rest, -, -, -, -, -, next⟩
    · cases cut
    · obtain ⟨came, -⟩ := next (by simp)
      rw [came, terminal_see holds]
      exact ⟨List.prefix_append _ _, by simp⟩
  | idle early read _ ih =>
    subst held
    rcases listens.heard early read with ⟨cut, -⟩ | ⟨rest, same, still, fewer, -, -, next⟩
    · cases cut
    · obtain ⟨came, fault⟩ := next (by simp)
      rw [came, fault]
      exact ih same still (by omega)
  | @hop _ _ _ _ _ _ _ _ _ m log early read unmarked _ ih =>
    subst held
    rcases listens.heard early read with ⟨cut, -⟩ | ⟨rest, same, still, fewer, -, -, next⟩
    · cases cut
    · obtain ⟨came, fault⟩ := next (by simp)
      obtain ⟨seen, sameReplies, sameFault⟩ := still.see m
      obtain ⟨heard, last⟩ := ih same seen (by omega)
      rw [sameReplies, sameFault] at last
      rw [sameReplies] at heard
      rw [came, fault]
      refine ⟨List.cons_prefix_cons.2 ⟨rfl, heard⟩, fun none => ?_⟩
      obtain ⟨all, sound⟩ := last none
      exact ⟨List.cons_prefix_cons.2 ⟨rfl, all⟩, sound⟩

end Watch

namespace Watch

/-- A watch that reads the channel of a network, over a store that takes no time. -/
structure Attends (registry : Registry) (s : Watch) (h : Hub) (w : World) : Prop where
  prompt : s.coordinator.recorder.IsPrompt w.journal
  network : w.transport.registry = registry
  sound : h.Sound s.deadline
  /-- At the deadline nothing is left that came before it. -/
  late : s.deadline ≤ w.now → ∀ count, h.arrivals registry s.deadline count = []

variable {registry : Registry} {n : Nat} {s s' : Watch} {c c' : Channel} {w w' : World} {h : Hub}
  {log : List Reading}

theorem Attends.see (attends : s.Attends registry h w) (m : Reply) :
    (s.see m w).1.Attends registry h (s.see m w).2 := by
  obtain ⟨own, deadline, prompt, now⟩ := see_spec rfl attends.prompt m
  refine ⟨?_, attends.network, ?_, ?_⟩
  · rw [own]
    exact prompt
  · rw [deadline]
    exact attends.sound
  · rw [deadline, now]
    exact attends.late

/-- A wait is handed the next message of those to come; if there is none it lasts to the
deadline. -/
theorem Attends.heard (attends : s.Attends registry h w) (early : w.now < s.deadline)
    {reading : Reading} (read : w.receive (.hub h) s.deadline = (reading, c', w')) :
    ∃ h', c' = .hub h' ∧ s.Attends registry h' w' ∧
      ((reading = .cutOff ∧ (∀ count, h.arrivals registry s.deadline count = []) ∧
          ∀ count, h'.arrivals registry s.deadline count = []) ∨
        ∃ m, reading = .message m ∧ ∃ ran, ∀ later,
          h.arrivals registry s.deadline (ran + later) =
            m.message :: h'.arrivals registry s.deadline later) := by
  have prompt : s.coordinator.recorder.IsPrompt w'.journal := by
    cases read
    exact attends.prompt
  have network : w'.transport.registry = registry := by
    cases read
    exact attends.network
  obtain ⟨h', rfl, sound, heard⟩ := World.received attends.network attends.sound early read
  rcases heard with ⟨cut, -, none, nothing⟩ | ⟨m, message, before, came⟩
  · exact ⟨h', rfl, ⟨prompt, network, sound, fun _ => nothing⟩, Or.inl ⟨cut, none, nothing⟩⟩
  · exact ⟨h', rfl, ⟨prompt, network, sound,
      fun late => absurd before (Nat.not_lt_of_le late)⟩, Or.inr ⟨m, message, came⟩⟩

/--
From some task on what comes is what was read and what comes after it; unless the marker is found
that is nothing, or as much has been read as may be.
-/
theorem Reads.attends (reads : Reads n s c w log s' c' w') (held : c = .hub h)
    (attends : s.Attends registry h w) :
    log.findSome? Reading.fault? = none ∧ ∃ h' : Hub,
      (∃ ran, ∀ later, h.arrivals registry s.deadline (ran + later) =
        Reading.messages log ++ h'.arrivals registry s.deadline later) ∧
      (s'.terminal = none → (∀ later, h'.arrivals registry s.deadline later = []) ∨
        n ≤ (Reading.messages log).length) := by
  induction reads generalizing h with
  | weary =>
    refine ⟨rfl, h, ⟨0, fun later => ?_⟩, fun _ => Or.inr (Nat.zero_le _)⟩
    rw [Nat.zero_add]
    rfl
  | late late =>
    refine ⟨rfl, h, ⟨0, fun later => ?_⟩, fun _ => Or.inl (attends.late late)⟩
    rw [Nat.zero_add]
    rfl
  | cutOff early read =>
    subst held
    obtain ⟨h', -, -, ⟨-, none, nothing⟩ | ⟨m, message, -⟩⟩ := attends.heard early read
    · refine ⟨rfl, h', ⟨0, fun later => ?_⟩, fun _ => Or.inl nothing⟩
      rw [none, nothing]
      rfl
    · cases message
  | broken early read =>
    subst held
    obtain ⟨h', -, -, ⟨cut, -⟩ | ⟨m, message, -⟩⟩ := attends.heard early read
    · cases cut
    · cases message
  | marked early read holds =>
    subst held
    obtain ⟨h', -, -, ⟨cut, -⟩ | ⟨m, message, came⟩⟩ := attends.heard early read
    · cases cut
    · cases message
      rw [terminal_see holds]
      exact ⟨rfl, h', came, by simp⟩
  | idle early read _ _ =>
    subst held
    obtain ⟨h', -, -, ⟨cut, -⟩ | ⟨m, message, -⟩⟩ := attends.heard early read
    · cases cut
    · cases message
  | @hop _ _ _ _ _ _ _ _ _ m _ early read unmarked _ ih =>
    subst held
    obtain ⟨h', same, still, ⟨cut, -⟩ | ⟨m, message, ran, came⟩⟩ := attends.heard early read
    · cases cut
    · cases message
      obtain ⟨sound, h'', ⟨more, later⟩, last⟩ := ih same (still.see m)
      refine ⟨sound, h'', ⟨ran + more, fun count => ?_⟩, fun none => ?_⟩
      · rw [Nat.add_assoc, came]
        exact congrArg (m.message :: ·) (later count)
      · rcases last none with nothing | many
        · exact Or.inl nothing
        · right
          exact Nat.succ_le_succ many

end Watch

end RollCall
