import RollCall.Proofs.Partition
import RollCall.Proofs.Replies

set_option autoImplicit false

/-!
A broadcast over a script. With a store that takes no time the outcome can be read off the script:
what counts is the first reply of each recipient before the deadline and before the channel breaks.
-/
namespace RollCall

namespace Playback

def times : Nat → List ScriptedEvent → List Nat
  | _, [] => []
  | now, e :: rest => (now + e.delay) :: times (now + e.delay) rest

/-- The messages that come before an instant and before the channel breaks. -/
def repliesBefore (limit : Nat) : Nat → List ScriptedEvent → List Message
  | _, [] => []
  | now, e :: rest =>
    if now + e.delay < limit then
      match e.reading with
      | .failed _ => []
      | reading => reading.message?.toList ++ repliesBefore limit (now + e.delay) rest
    else []

def events? (p : Playback) : Option (List ScriptedEvent) :=
  match p.channels with
  | [] => none
  | c :: _ => if c.openError.isNone && c.publishError.isNone then some c.events else none

theorem repliesBefore_of_late {limit now : Nat} (late : limit ≤ now) (events : List ScriptedEvent) :
    repliesBefore limit now events = [] := by
  cases events with
  | nil => rfl
  | cons e rest =>
    have after : ¬ now + e.delay < limit := by omega
    rw [repliesBefore, if_neg after]

end Playback

theorem ScriptedEvent.reading_ne_cutOff (e : ScriptedEvent) : e.reading ≠ .cutOff := by
  unfold reading
  split <;> simp

/-- What one wait on a scripted channel can come to. -/
inductive World.Hears (w : World) (limit : Nat) :
    PlaybackChannel → Reading → Channel → World → Prop
  | came {topic : String} {publishDelay : Option Nat} {publishError : Option Error}
      {e : ScriptedEvent} {rest : List ScriptedEvent} (inTime : w.now + e.delay ≤ limit) :
      Hears w limit ⟨topic, publishDelay, publishError, e :: rest⟩ e.reading
        (.playback ⟨topic, publishDelay, publishError, rest⟩) ((w.log (.read e.reading)).wait e.delay)
  | cutOff {c : PlaybackChannel} (late : ∀ e ∈ c.events.head?, limit < w.now + e.delay) :
      Hears w limit c .cutOff (.playback c)
        ((w.log (.read .cutOff)).withClock (w.clock.waitUntil limit))

/-- Waiting on a scripted channel is one of these. -/
theorem World.hears_of_receive {w w' : World} {p : Playback} (scripted : w.transport = .playback p)
    {c : PlaybackChannel} {limit : Nat} {reading : Reading} {c' : Channel}
    (read : w.receive (.playback c) limit = (reading, c', w')) :
    w.Hears limit c reading c' w' := by
  obtain ⟨topic, publishDelay, publishError, events⟩ := c
  unfold receive at read
  rw [scripted] at read
  cases events with
  | nil =>
    cases read
    exact Hears.cutOff (by simp)
  | cons e rest =>
    by_cases inTime : w.clock.now + e.delay ≤ limit
    · simp only [Transport.receive, PlaybackChannel.receive, inTime, ↓reduceIte] at read
      cases read
      exact Hears.came inTime
    · simp only [Transport.receive, PlaybackChannel.receive, inTime, ↓reduceIte] at read
      cases read
      refine Hears.cutOff ?_
      intro first next
      cases next
      exact Nat.lt_of_not_le inTime

/-- One wait on a script uses up the next event, or is cut off at its limit. -/
theorem World.came_or_cutOff {w w' : World} {p : Playback} (scripted : w.transport = .playback p)
    {script : PlaybackChannel} {limit : Nat} {reading : Reading} {c : Channel}
    (read : w.receive (.playback script) limit = (reading, c, w')) :
    w'.transport = .playback p ∧ ∃ rest : PlaybackChannel, c = .playback rest ∧
      ((∃ e, script.events = e :: rest.events ∧ reading = e.reading) ∨
        rest.events = script.events ∧ reading = .cutOff ∧ limit ≤ w'.now) := by
  have hears := World.hears_of_receive scripted read
  cases hears with
  | came inTime => exact ⟨scripted, _, rfl, .inl ⟨_, rfl, rfl⟩⟩
  | cutOff late =>
    refine ⟨scripted, _, rfl, .inr ⟨rfl, rfl, ?_⟩⟩
    refine Nat.le_trans ?_ (Nat.le_of_eq (Clock.now_waitUntil w.clock limit).symm)
    exact Nat.le_max_right _ _

namespace FanOut

/--
A fan-out that listens to a script over a store that takes no time, while nothing comes just at its
deadline.
-/
structure Listens (f : FanOut) (w : World) : Prop where
  setup : f.setupFailure = none
  prompt : f.coordinator.recorder.IsPrompt w.journal
  scripted : ∃ p, w.transport = .playback p
  apart : ∀ c, f.channel = some c → ∃ script, c = .playback script ∧
    (w.now < f.deadline → f.deadline ∉ Playback.times w.now script.events)

def outstanding (f : FanOut) (w : World) : List Message :=
  match f.channel with
  | some (.playback c) => Playback.repliesBefore f.deadline w.now c.events
  | _ => []

variable {f f' : FanOut} {w w' : World} {log : List Call} {r : Option Resolution}
  {rs : List Resolution}

theorem outstanding_of_over (ended : f.Over w) : f.missing = [] ∨ f.outstanding w = [] := by
  rcases ended with done | late | released
  · exact Or.inl done
  · right
    unfold outstanding
    split
    · exact Playback.repliesBefore_of_late late _
    · rfl
  · right
    simp [outstanding, released]

/-- Closing a step and noting a report change nothing of what is heard later. -/
theorem Listens.resolved (listens : f.Listens w) (slots : List Slot) (step : Option StepId)
    (success : Bool) :
    Listens { f with slots := slots } (f.coordinator.endStep f.requestId step success w) ∧
      outstanding { f with slots := slots } (f.coordinator.endStep f.requestId step success w) =
        f.outstanding w := by
  obtain ⟨prompt, moment⟩ := f.coordinator.endStep_timeless f.requestId step success w listens.prompt
  have now : (f.coordinator.endStep f.requestId step success w).now = w.now :=
    congrArg Moment.ms moment
  refine ⟨⟨listens.setup, prompt, listens.scripted, ?_⟩, ?_⟩
  · rw [now]
    exact listens.apart
  · unfold outstanding
    rw [now]

/-- What comes of one wait was the next of the messages to come, if it is one. -/
theorem Listens.heard (listens : f.Listens w) {c c' : Channel} (awaits : f.Awaits w c)
    {reading : Reading} (read : w.receive c f.deadline = (reading, c', w'))
    (sound : ∀ e, reading ≠ .failed e) :
    Listens { f with channel := some c' } w' ∧
      f.outstanding w = reading.message?.toList ++ outstanding { f with channel := some c' } w' := by
  obtain ⟨p, scripted⟩ := listens.scripted
  obtain ⟨script, rfl, apart⟩ := listens.apart c awaits.channel
  have distinct := apart awaits.early
  have hears := World.hears_of_receive scripted read
  cases hears with
  | @came topic publishDelay publishError e rest inTime =>
    have now : ((w.log (.read e.reading)).wait e.delay).now = w.now + e.delay :=
      Clock.now_wait w.clock e.delay
    rw [Playback.times, List.mem_cons, not_or] at distinct
    have before : w.now + e.delay < f.deadline := by omega
    refine ⟨⟨listens.setup, listens.prompt, ⟨p, scripted⟩, ?_⟩, ?_⟩
    · intro ch held
      cases held
      refine ⟨_, rfl, fun _ => ?_⟩
      rw [now]
      exact distinct.2
    · simp only [outstanding, awaits.channel, now]
      rw [Playback.repliesBefore, if_pos before]
      split
      · rename_i fault failed
        exact absurd failed (sound fault)
      · rfl
  | cutOff late =>
    have now : ((w.log (.read .cutOff)).withClock (w.clock.waitUntil f.deadline)).now = f.deadline := by
      have early := awaits.early
      refine (Clock.now_waitUntil w.clock f.deadline).trans ?_
      exact Nat.max_eq_right (Nat.le_of_lt early)
    refine ⟨⟨listens.setup, listens.prompt, ⟨p, scripted⟩, ?_⟩, ?_⟩
    · intro ch held
      cases held
      refine ⟨_, rfl, fun early => ?_⟩
      rw [now] at early
      exact absurd early (Nat.lt_irrefl f.deadline)
    · have nothingLater : outstanding { f with channel := some (.playback script) }
          ((w.log (.read .cutOff)).withClock (w.clock.waitUntil f.deadline)) = [] := by
        simp only [outstanding, now]
        exact Playback.repliesBefore_of_late (Nat.le_refl _) _
      rw [nothingLater]
      simp only [outstanding, awaits.channel]
      cases events : script.events with
      | nil => rfl
      | cons e rest =>
        rw [events] at late
        have after : ¬ w.now + e.delay < f.deadline :=
          Nat.not_lt_of_le (Nat.le_of_lt (late e rfl))
        rw [Playback.repliesBefore, if_neg after]
        rfl

/-- When the channel breaks no message was to come before that. -/
theorem Listens.outstanding_of_failed (listens : f.Listens w) {c c' : Channel}
    (awaits : f.Awaits w c) {e : Error} (read : w.receive c f.deadline = (.failed e, c', w')) :
    f.outstanding w = [] ∧ f.coordinator.recorder.IsPrompt w'.journal ∧
      w'.transport = w.transport := by
  obtain ⟨p, scripted⟩ := listens.scripted
  obtain ⟨script, rfl, -⟩ := listens.apart c awaits.channel
  have hears := World.hears_of_receive scripted read
  generalize failed : Reading.failed e = reading at hears
  cases hears with
  | came inTime =>
    refine ⟨?_, listens.prompt, rfl⟩
    simp only [outstanding, awaits.channel]
    rw [Playback.repliesBefore, ← failed]
    split
    · rfl
    · rfl
  | cutOff late => cases failed

/-- A step hands over the messages that it reads, in order. -/
theorem Step.listens (step : Step f w log r f' w') (listens : f.Listens w) :
    f'.Listens w' ∧
      f.outstanding w = Reading.messages (Call.readings log) ++ f'.outstanding w' := by
  cases step with
  | refused failed pending => simp [listens.setup] at failed
  | cutOff awaits read => exact listens.heard awaits read (by simp)
  | idle awaits read => exact listens.heard awaits read (by simp)
  | ignored awaits read unknown => exact listens.heard awaits read (by simp)
  | @broken w' c c' e awaits read =>
    obtain ⟨nothingLater, prompt, same⟩ := listens.outstanding_of_failed awaits read
    obtain ⟨p, scripted⟩ := listens.scripted
    refine ⟨⟨listens.setup, prompt, ⟨p, ?_⟩, by simp⟩, nothingLater⟩
    simp [World.release, same, scripted, Transport.release]
  | @reported w' c c' m step awaits read known =>
    obtain ⟨heard, handed⟩ := listens.heard awaits read (by simp)
    obtain ⟨still, kept⟩ := heard.resolved (fill m.sender m.body.classify f.slots) step
      m.body.classify.isOk
    exact ⟨still, handed.trans (congrArg _ kept.symm)⟩

/-- Over a run the messages read are the first of those that were to come. -/
theorem Run.listens (run : Run f w log rs f' w') (listens : f.Listens w) :
    f'.Listens w' ∧
      f.outstanding w = Reading.messages (Call.readings log) ++ f'.outstanding w' := by
  induction run with
  | refl => exact ⟨listens, rfl⟩
  | step first _ ih =>
    obtain ⟨still, handed⟩ := first.listens listens
    obtain ⟨last, handedLater⟩ := ih still
    refine ⟨last, ?_⟩
    rw [handed, handedLater, Call.readings_append, Reading.messages_append, List.append_assoc]

/-- A fan-out whose channel has these events to come, over any store. -/
structure Scripted (f : FanOut) (events : List ScriptedEvent) (w : World) : Prop where
  setup : f.setupFailure = none
  transport : ∃ p, w.transport = .playback p
  channel : ∀ c, f.channel = some c → ∃ script, c = .playback script ∧ script.events = events

theorem Listens.onScript (listens : f.Listens w) : ∃ events, f.Scripted events w := by
  cases channel : f.channel with
  | none => exact ⟨[], listens.setup, listens.scripted, by simp [channel]⟩
  | some c =>
    obtain ⟨script, rfl, -⟩ := listens.apart c channel
    refine ⟨script.events, listens.setup, listens.scripted, fun c held => ⟨script, ?_, rfl⟩⟩
    exact Option.some.inj (held.symm.trans channel)

variable {events : List ScriptedEvent}

theorem Scripted.heard (scripted : f.Scripted events w) {c c' : Channel} (awaits : f.Awaits w c)
    {reading : Reading} (read : w.receive c f.deadline = (reading, c', w')) :
    (∃ e rest, events = e :: rest ∧ reading = e.reading ∧
        Scripted { f with channel := some c' } rest w') ∨
      reading = .cutOff ∧ Scripted { f with channel := some c' } events w' ∧ f.deadline ≤ w'.now := by
  obtain ⟨setup, ⟨p, transport⟩, channel⟩ := scripted
  obtain ⟨script, rfl, rfl⟩ := channel c awaits.channel
  obtain ⟨transportLater, rest, rfl, came | cut⟩ := World.came_or_cutOff transport read
  · obtain ⟨e, next, rfl⟩ := came
    exact .inl ⟨e, rest.events, next, rfl, setup, ⟨p, transportLater⟩,
      fun c held => ⟨rest, (Option.some.inj held).symm, rfl⟩⟩
  · obtain ⟨same, rfl, late⟩ := cut
    exact .inr ⟨rfl, ⟨setup, ⟨p, transportLater⟩,
      fun c held => ⟨rest, (Option.some.inj held).symm, same⟩⟩, late⟩

/-- With an allowance for the whole script a fan-out stops reading only when there is nothing to
do. -/
theorem Scripted.readOn_over (allowance : Nat) (scripted : f.Scripted events w)
    (enough : events.length < allowance) (last : f.readOn allowance w = (none, f', w')) :
    f'.Over w' := by
  induction allowance generalizing f w events with
  | zero => omega
  | succ allowance ih =>
    by_cases ended : f.Over w
    · rw [readOn, readOnce_of_over ended] at last
      cases last
      exact ended
    · obtain ⟨c, awaits⟩ := awaits_of_not_over scripted.setup ended
      rw [readOn, readOnce_of_awaits awaits] at last
      rcases received : w.receive c f.deadline with ⟨reading, c', v⟩
      rw [received] at last
      rcases scripted.heard awaits received with ⟨e, rest, rfl, same, still⟩ | ⟨rfl, -, late⟩
      · rw [List.length_cons] at enough
        cases reading with
        | cutOff => exact absurd same.symm e.reading_ne_cutOff
        | nothing => exact ih still (by omega) last
        | failed e =>
          cases last
          exact .inr (.inr rfl)
        | message m =>
          cases known : pendingStep? { f with channel := some c' } m.sender with
          | none =>
            simp only [heed, known] at last
            exact ih still (by omega) last
          | some step =>
            simp only [heed, known] at last
            cases last
      · cases last
        exact .inr (.inl late)

theorem Scripted.next_over (scripted : f.Scripted events w) (last : f.next w = (none, f', w')) :
    f'.Over w' := by
  unfold next at last
  rw [scripted.setup] at last
  cases channel : f.channel with
  | none =>
    simp only [allowance, channel, Option.map_none, Option.getD_none, readOn] at last
    cases last
    exact .inr (.inr channel)
  | some c =>
    obtain ⟨script, rfl, rfl⟩ := scripted.channel c channel
    refine scripted.readOn_over (f.allowance w) ?_ last
    simp [allowance, channel, Channel.allowance]

/-- The reports gathered are the first of all replies that come in time. -/
theorem Listens.gathered (listens : f.Listens w) {count : Nat} (enough : f.missing.length < count)
    (gathered : f.gather count w = (rs, f', w')) :
    ∃ log, Run f w log rs f' w' ∧
      Reading.messages (Call.readings log) <+: f.outstanding w ∧
      rs = (firstReplies f.missing (f.outstanding w)).map Resolution.ofMessage := by
  obtain ⟨g, v, log, run, last⟩ := gather_last count f w enough
  rw [gathered] at run last
  obtain ⟨later, rest⟩ := next_run g v
  rw [last] at rest
  have whole := run.trans rest
  rw [Option.toList_none, List.append_nil] at whole
  obtain ⟨events, scripted⟩ := (run.listens listens).1.onScript
  have ended := scripted.next_over last
  obtain ⟨-, handed⟩ := whole.listens listens
  have replies := whole.replies listens.setup
  refine ⟨log ++ later, whole, ⟨_, handed.symm⟩, ?_⟩
  rw [handed]
  rcases outstanding_of_over ended with done | nothingLater
  · rw [firstReplies_append_of_heard ?_, ← replies]
    intro r owed
    obtain ⟨m, first⟩ := whole.heard listens.setup done owed
    exact ⟨m, firstReply?_eq_some first⟩
  · rw [nothingLater, List.append_nil, ← replies]

end FanOut

end RollCall
