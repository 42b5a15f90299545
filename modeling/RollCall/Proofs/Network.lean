import RollCall.Proofs.Deadline
import RollCall.Proofs.Reference

set_option autoImplicit false

/-!
A broadcast over a network. With a store that takes no time every message that comes before the
deadline is read, unless everybody has been heard, so that each recipient's first reply counts.
-/
namespace RollCall

/-- A wait is handed the next message of those to come; if there is none it lasts to its limit. -/
theorem World.received {registry : Registry} {w w' : World} {h : Hub} {limit : Nat}
    {reading : Reading} {c' : Channel} (network : w.transport.registry = registry)
    (sound : h.Sound limit) (early : w.now < limit)
    (read : w.receive (.hub h) limit = (reading, c', w')) :
    ∃ h', c' = .hub h' ∧ h'.Sound limit ∧
      ((reading = .cutOff ∧ w'.now = limit ∧ (∀ count, h.arrivals registry limit count = []) ∧
          ∀ count, h'.arrivals registry limit count = []) ∨
        ∃ m, reading = .message m ∧ w'.now < limit ∧ ∃ ran, ∀ later,
          h.arrivals registry limit (ran + later) =
            m.message :: h'.arrivals registry limit later) := by
  have now : w.clock.now < limit := early
  rcases wait : h.receive w.transport.registry w.clock limit with ⟨a, h', clock'⟩
  simp only [receive, Transport.receive, wait] at read
  cases read
  rw [network] at wait
  cases a with
  | some a =>
    obtain ⟨still, -, before⟩ := sound.received now wait
    exact ⟨h', rfl, still, Or.inr ⟨_, rfl, before, Hub.arrivals_of_received now wait⟩⟩
  | none =>
    obtain ⟨still, last, none, nothing⟩ := sound.cutOff now wait
    exact ⟨h', rfl, still, Or.inl ⟨rfl, last, none, nothing⟩⟩

namespace FanOut

/-- A fan-out that reads the channel of a network, over a store that takes no time. -/
structure Attends (registry : Registry) (f : FanOut) (w : World) (h : Hub) : Prop where
  setup : f.setupFailure = none
  prompt : f.coordinator.recorder.IsPrompt w.journal
  network : w.transport.registry = registry
  channel : f.channel = some (.hub h)
  sound : h.Sound f.deadline
  /-- At the deadline nothing is left that came before it. -/
  late : f.deadline ≤ w.now → ∀ count, h.arrivals registry f.deadline count = []

variable {registry : Registry} {f f' : FanOut} {w w' : World} {h : Hub} {log : List Call}
  {r : Option Resolution} {rs : List Resolution}

/-- A wait is handed the next message of those to come; if there is none it lasts to the
deadline. -/
theorem Attends.received (attends : f.Attends registry w h) {c c' : Channel}
    (awaits : f.Awaits w c) {reading : Reading}
    (read : w.receive c f.deadline = (reading, c', w')) :
    ∃ h', Attends registry { f with channel := some c' } w' h' ∧
      (reading = .cutOff ∧ f.deadline ≤ w'.now ∨ ∃ m, reading = .message m) ∧
      ∃ ran, ∀ later, h.arrivals registry f.deadline (ran + later) =
        reading.message?.toList ++ h'.arrivals registry f.deadline later := by
  obtain rfl : c = .hub h := Option.some.inj (awaits.channel.symm.trans attends.channel)
  have prompt : f.coordinator.recorder.IsPrompt w'.journal := by
    cases read
    exact attends.prompt
  have network : w'.transport.registry = registry := by
    cases read
    exact attends.network
  obtain ⟨h', rfl, sound, heard⟩ := World.received attends.network attends.sound awaits.early read
  rcases heard with ⟨cut, last, none, nothing⟩ | ⟨m, message, before, ran, came⟩
  · refine ⟨h', ⟨attends.setup, prompt, network, rfl, sound, fun _ => nothing⟩,
      Or.inl ⟨cut, Nat.le_of_eq last.symm⟩, 0, fun later => ?_⟩
    rw [cut, none, nothing]
    rfl
  · refine ⟨h', ⟨attends.setup, prompt, network, rfl, sound, fun late => ?_⟩,
      Or.inr ⟨m, message⟩, ran, fun later => ?_⟩
    · exact absurd before (Nat.not_lt_of_le late)
    · rw [message, came]
      rfl

theorem Attends.resolved (attends : f.Attends registry w h) (slots : List Slot)
    (step : Option StepId) (success : Bool) :
    Attends registry { f with slots := slots } (f.coordinator.endStep f.requestId step success w)
      h := by
  obtain ⟨prompt, -⟩ := f.coordinator.endStep_timeless f.requestId step success w attends.prompt
  refine ⟨attends.setup, prompt, attends.network, attends.channel, attends.sound, ?_⟩
  rw [f.coordinator.now_endStep f.requestId attends.prompt step success]
  exact attends.late

/-- A step reads the next message of those to come, if it reads one. -/
theorem Step.attends (step : Step f w log r f' w') (attends : f.Attends registry w h) :
    ∃ h', f'.Attends registry w' h' ∧ w'.patience = w.patience ∧
      ∃ ran, ∀ later, h.arrivals registry f.deadline (ran + later) =
        Reading.messages (Call.readings log) ++ h'.arrivals registry f.deadline later := by
  have patience {c c' : Channel} {reading : Reading} {v : World}
      (read : w.receive c f.deadline = (reading, c', v)) : v.patience = w.patience := by
    cases read
    rfl
  cases step with
  | refused failed pending => simp [attends.setup] at failed
  | cutOff awaits read =>
    obtain ⟨h', still, -, next⟩ := attends.received awaits read
    exact ⟨h', still, patience read, next⟩
  | idle awaits read =>
    obtain ⟨h', still, -, next⟩ := attends.received awaits read
    exact ⟨h', still, patience read, next⟩
  | ignored awaits read unknown =>
    obtain ⟨h', still, -, next⟩ := attends.received awaits read
    exact ⟨h', still, patience read, next⟩
  | broken awaits read =>
    obtain ⟨-, -, ⟨cut, -⟩ | ⟨m, message⟩, -⟩ := attends.received awaits read
    · cases cut
    · cases message
  | reported awaits read known =>
    obtain ⟨h', still, -, next⟩ := attends.received awaits read
    have same := patience read
    exact ⟨h', still.resolved _ _ _, same, next⟩

/-- From some task on what comes is what a run has read and what comes after it. -/
theorem Run.attends (run : Run f w log rs f' w') (attends : f.Attends registry w h) :
    ∃ h', f'.Attends registry w' h' ∧ w'.patience = w.patience ∧
      ∃ ran, ∀ later, h.arrivals registry f.deadline (ran + later) =
        Reading.messages (Call.readings log) ++ h'.arrivals registry f.deadline later := by
  induction run generalizing h with
  | refl => exact ⟨h, attends, rfl, 0, fun later => by rw [Nat.zero_add]; rfl⟩
  | step first _ ih =>
    obtain ⟨h', still, patience, ran, here⟩ := first.attends attends
    obtain ⟨h'', last, patienceLater, more, there⟩ := ih still
    refine ⟨h'', last, patienceLater.trans patience, ran + more, fun later => ?_⟩
    rw [first.sameCall.deadline] at there
    rw [Nat.add_assoc, here, there, Call.readings_append, Reading.messages_append, List.append_assoc]

/-- Whoever reads so often in vain has read as many messages, or there is nothing to wait for. -/
theorem Attends.readOn_over (allowance : Nat) (attends : f.Attends registry w h)
    (last : f.readOn allowance w = (none, f', w')) :
    ∃ log, Run f w log [] f' w' ∧
      (f'.Over w' ∨ allowance ≤ (Reading.messages (Call.readings log)).length) := by
  induction allowance generalizing f w h with
  | zero =>
    cases last
    exact ⟨[], Run.refl _ _, Or.inr (Nat.zero_le _)⟩
  | succ allowance ih =>
    by_cases ended : f.Over w
    · rw [readOn, readOnce_of_over ended] at last
      cases last
      exact ⟨[], Run.refl _ _, Or.inl ended⟩
    · obtain ⟨c, awaits⟩ := awaits_of_not_over attends.setup ended
      rw [readOn, readOnce_of_awaits awaits] at last
      rcases received : w.receive c f.deadline with ⟨reading, c', v⟩
      rw [received] at last
      obtain ⟨h', heard, ⟨rfl, late⟩ | ⟨m, rfl⟩, -⟩ := attends.received awaits received
      · cases last
        exact ⟨_, (Step.cutOff awaits received).run, Or.inl (Or.inr (Or.inl late))⟩
      · cases known : pendingStep? { f with channel := some c' } m.sender with
        | some step =>
          simp only [heed, known] at last
          cases last
        | none =>
          simp only [heed, known] at last
          have unknown := (f.pendingStep?_eq_none_iff m.sender).1 known
          obtain ⟨log, rest, done⟩ := ih heard last
          refine ⟨_, Run.step (Step.ignored awaits received unknown) rest, ?_⟩
          rcases done with ended | many
          · exact Or.inl ended
          · right
            show allowance + 1 ≤ (m.message :: Reading.messages (Call.readings log)).length
            rw [List.length_cons]
            exact Nat.succ_le_succ many

theorem Attends.next_over (attends : f.Attends registry w h)
    (last : f.next w = (none, f', w')) :
    ∃ log, Run f w log [] f' w' ∧
      (f'.Over w' ∨ w.patience ≤ (Reading.messages (Call.readings log)).length) := by
  unfold next at last
  have allowance : f.allowance w = w.patience := by
    simp only [FanOut.allowance, attends.channel, Option.map_some, Option.getD_some,
      Channel.allowance]
  rw [attends.setup, allowance] at last
  exact attends.readOn_over w.patience last

/-- Gathering stops when there is nothing to wait for, or when as much has been read in vain. -/
theorem Attends.gather_over (attends : f.Attends registry w h) {count : Nat}
    (enough : f.missing.length < count) (gathered : f.gather count w = (rs, f', w')) :
    ∃ log, Run f w log rs f' w' ∧
      (f'.Over w' ∨ w.patience ≤ (Reading.messages (Call.readings log)).length) := by
  obtain ⟨g, v, log, run, last⟩ := gather_last count f w enough
  rw [gathered] at run last
  dsimp only at run last
  obtain ⟨_, still, patience, -⟩ := run.attends attends
  obtain ⟨more, rest, ended⟩ := still.next_over last
  have whole := run.trans rest
  rw [List.append_nil] at whole
  refine ⟨log ++ more, whole, ended.imp_right fun many => ?_⟩
  rw [Call.readings_append, Reading.messages_append, List.length_append]
  omega

/-- Among as many messages as the patience allows the first reply of each recipient is reported. -/
theorem Attends.gathered (attends : f.Attends registry w h) {count : Nat}
    (enough : f.missing.length < count) (gathered : f.gather count w = (rs, f', w')) {n : Nat}
    {r : RecipientId} {m : Message} (owed : r ∈ f.missing)
    (first : firstReply? ((h.arrivals registry f.deadline n).take w.patience) r = some m) :
    ⟨r, m.body.classify⟩ ∈ rs := by
  obtain ⟨log, whole, ended⟩ := attends.gather_over enough gathered
  obtain ⟨hub, attendsLast, -, ran, exact⟩ := whole.attends attends
  have came : (h.arrivals registry f.deadline n).take w.patience <+:
      Reading.messages (Call.readings log) ++ hub.arrivals registry f.deadline n := by
    rw [← exact]
    exact (List.take_prefix _ _).trans (Hub.arrivals_mono _ _ (Nat.le_add_left n ran) h)
  have replies := whole.replies attends.setup
  have heard : firstReply? (Reading.messages (Call.readings log)) r = some m := by
    rcases ended with (done | late | released) | many
    · -- everybody has been heard, and nobody can be heard first twice
      obtain ⟨m', heard⟩ := whole.heard attends.setup done owed
      have same := firstReply?_of_isPrefix
        (List.prefix_append _ (hub.arrivals registry f.deadline n)) heard
      rw [firstReply?_of_isPrefix came first] at same
      exact heard.trans same.symm
    · have nothing := attendsLast.late late n
      rw [whole.sameCall.deadline] at nothing
      rw [nothing, List.append_nil] at came
      exact firstReply?_of_isPrefix came first
    · rw [attendsLast.channel] at released
      cases released
    · exact firstReply?_of_isPrefix (List.prefix_of_prefix_length_le came
        (List.prefix_append _ _) (Nat.le_trans (List.length_take_le _ _) many)) first
  obtain ⟨-, rfl⟩ := firstReply?_eq_some heard
  rw [replies]
  exact List.mem_map_of_mem (f := Resolution.ofMessage) (mem_firstReplies_iff.2 ⟨owed, heard⟩)

variable {n : Network} (c : Coordinator) (recipients : List RecipientId) (request : Request)
  (wait : Nat)

theorem hub_start (network : w.transport = .network n) {ch : Channel}
    (held : (start c recipients request wait w).1.channel = some ch) : ∃ h, ch = .hub h := by
  cases reach : n.offline with
  | true =>
    obtain ⟨fault, failed⟩ :=
      World.connect_offline network reach (c.topic "broadcast" request.requestId) recipients request
    simp only [start, failed] at held
    cases held
  | false =>
    obtain ⟨connected, -⟩ :=
      World.connect_online network reach (c.topic "broadcast" request.requestId) recipients request
    simp only [start, connected] at held
    cases held
    exact ⟨_, rfl⟩

theorem attends_start (network : w.transport = .network n) (online : n.offline = false)
    (prompt : c.recorder.IsPrompt w.journal) (positive : 0 < wait) :
    Attends n.registry (start c recipients request wait w).1 (start c recipients request wait w).2
        ((Hub.opened (c.topic "broadcast" request.requestId) recipients).publish n.registry
          w.clock.moment request) ∧
      (start c recipients request wait w).2.patience = w.patience := by
  obtain ⟨connected, registry, patience⟩ :=
    World.connect_online network online (c.topic "broadcast" request.requestId) recipients request
  obtain ⟨timely, opened⟩ := timely_start c recipients request wait w prompt
  refine ⟨⟨?_, timely.prompt, registry, ?_, Hub.sound_publish _ recipients request, ?_⟩, patience⟩
  · simp only [start, connected]
  · simp only [start, connected]
    rfl
  · intro late
    have atOnce : w.transport.setup? = some 0 := by
      rw [network]
      rfl
    rw [timely.deadline, (opened.ended 0 atOnce).1] at late
    omega

end FanOut

namespace Coordinator

variable (c : Coordinator) (recipients : List RecipientId) (payload : Json) (deadline : Nat)

theorem deadline_pos (accepted : broadcastRefusal? recipients payload deadline = none) :
    0 < deadline := by
  unfold broadcastRefusal? at accepted
  split at accepted
  · cases accepted
  · split at accepted
    · cases accepted
    · split at accepted
      · cases accepted
      · omega

/--
What has come on the channel of a broadcast when so many tasks of a network have run, of those that
are due before the deadline.
-/
def incoming (n : Network) (count : Nat) (w : World) : List Message :=
  let request := (w.newRequest payload).1
  let hub := Hub.opened (c.topic "broadcast" request.requestId) (distinct recipients)
  (hub.publish n.registry w.clock.moment request).arrivals n.registry (w.now + deadline) count

variable {recipients payload deadline}

/-- Each recipient whose first reply comes before the deadline is listed with it. -/
theorem broadcast_hears {w : World} {n : Network} (network : w.transport = .network n)
    (online : n.offline = false) (prompt : c.recorder.IsPrompt w.journal)
    (accepted : broadcastRefusal? recipients payload deadline = none) {o : BroadcastOutcome}
    (done : (c.broadcast recipients payload deadline w).1 = .ok o) {count : Nat}
    {r : RecipientId} {m : Message} (listed : r ∈ recipients)
    (first : firstReply? ((c.incoming recipients payload deadline n count w).take w.patience) r =
      some m) :
    (∀ text, m.body.classify = .ok text → o.succeeded.get? r = some text) ∧
      ∀ e, m.body.classify = .error e → o.failed.get? r = some e := by
  have asked : (w.newRequest payload).2.transport = .network n := network
  obtain ⟨attends, patience⟩ := FanOut.attends_start c (distinct recipients)
    (w.newRequest payload).1 deadline asked online prompt
    (deadline_pos recipients payload deadline accepted)
  rw [← setOut_eq] at attends patience
  have limit : (c.setOut recipients payload deadline w).1.deadline = w.now + deadline := rfl
  rcases started : c.setOut recipients payload deadline w with ⟨f, w'⟩
  rcases gathered : f.gather (f.slots.length + 1) w' with ⟨reports, f', w''⟩
  obtain ⟨all, enough⟩ := missing_lt_slots c started
  obtain ⟨log, run⟩ := FanOut.gather_run (f.slots.length + 1) f w'
  rw [broadcast_eq c w accepted started gathered] at done
  rw [started] at attends patience limit
  rw [gathered] at run
  cases done
  have owed : r ∈ f.missing := by
    rw [all, mem_distinct]
    exact listed
  have reported := attends.gathered enough gathered (n := count) owed
    (by rw [limit, patience]; exact first)
  have once := run.missing.1
  refine ⟨?_, ?_⟩
  · intro text answered
    rw [answered] at reported
    exact ((BroadcastOutcome.get?_ofReports once r).1 text).2 reported
  · intro e failed
    rw [failed] at reported
    exact ((BroadcastOutcome.get?_ofReports once r).2 e).2 reported

end Coordinator

end RollCall
