import RollCall.Proofs.Network
import RollCall.Proofs.Quickest

set_option autoImplicit false

/-!
A broadcast to scripted participants who forward nothing, over a store that takes no time. Whom it
lists where and when it is over can be read off the scripts: nothing but the quickest reply of each
recipient matters, and of that whether it comes before the deadline.
-/
namespace RollCall

/-- The message with which somebody is heard first. -/
def Surfacing.firstOf? (messages : List Surfacing) (q : RecipientId) : Option Surfacing :=
  messages.find? fun s => s.message.sender = q

theorem firstReply?_map_message (messages : List Surfacing) (q : RecipientId) :
    firstReply? (messages.map Surfacing.message) q =
      (Surfacing.firstOf? messages q).map Surfacing.message :=
  List.find?_map

namespace FanOut

open Surfacing (firstOf?)

/-- A fan-out to which these messages are still to come, in this order and before its deadline. -/
structure Expects (registry : Registry) (f : FanOut) (w : World) (h : Hub)
    (messages : List Surfacing) : Prop where
  attends : f.Attends registry w h
  yields : h.Yields registry f.deadline w.clock messages
  sorted : messages.Pairwise fun a b => a.ms ≤ b.ms
  ahead : ∀ s ∈ messages, w.now ≤ s.ms
  inTime : w.now < f.deadline ∨ messages = [] ∧ w.now = f.deadline

variable {registry : Registry} {f f' : FanOut} {w w' : World} {h : Hub} {log : List Call}
  {r : Option Resolution} {rs : List Resolution} {messages : List Surfacing}

/-- A wait ends with the next message or, if there is none, at the deadline. -/
theorem Expects.received (expects : f.Expects registry w h messages) {c c' : Channel}
    (awaits : f.Awaits w c) {reading : Reading}
    (read : w.receive c f.deadline = (reading, c', w')) :
    ∃ h' later, Expects registry { f with channel := some c' } w' h' later ∧
      ((∃ m s, reading = .message m ∧ m.message = s.message ∧ messages = s :: later ∧
          w'.now = s.ms) ∨
        reading = .cutOff ∧ messages = [] ∧ later = [] ∧ w.now ≤ w'.now) := by
  obtain ⟨attends, yields, sorted, ahead, -⟩ := expects
  obtain ⟨h', still, -, -⟩ := attends.received awaits read
  obtain rfl : c = .hub h := Option.some.inj (awaits.channel.symm.trans attends.channel)
  have early : w.clock.now < f.deadline := awaits.early
  have soon := yields.early
  rcases yields.receive early (Nat.le_refl _) with
    ⟨a, later, k, clock, received, rfl, answered, -, yieldsLater⟩ |
      ⟨k, clock, received, answered, nothing, yieldsLater⟩
  · rw [← attends.network] at received
    simp only [World.receive, Transport.receive, received] at read
    cases read
    cases still.channel
    have now : clock.now = a.moment.ms :=
      answered.trans (Nat.max_eq_right (ahead a.surfacing List.mem_cons_self))
    obtain ⟨first, rest⟩ := List.pairwise_cons.1 sorted
    refine ⟨_, later, ⟨still, yieldsLater, rest, ?_, Or.inl ?_⟩,
      Or.inl ⟨_, a.surfacing, rfl, rfl, rfl, now⟩⟩
    · intro u member
      exact Nat.le_trans (Nat.le_of_eq now) (first u member)
    · exact Nat.lt_of_le_of_lt (Nat.le_of_eq now) (soon a.surfacing List.mem_cons_self)
  · rw [← attends.network] at received
    simp only [World.receive, Transport.receive, received] at read
    cases read
    cases still.channel
    have none : messages = [] := by
      refine List.eq_nil_iff_forall_not_mem.2 fun s member => ?_
      exact Nat.not_lt.2 (nothing s member) (soon s member)
    subst none
    have now : clock.now = f.deadline := answered.trans (Nat.max_eq_right (Nat.le_of_lt early))
    refine ⟨_, [], ⟨still, yieldsLater, sorted, by simp, Or.inr ⟨rfl, now⟩⟩,
      Or.inr ⟨rfl, rfl, rfl, ?_⟩⟩
    exact Nat.le_trans (Nat.le_of_lt early) (Nat.le_of_eq now.symm)

theorem Expects.resolved (expects : f.Expects registry w h messages) (slots : List Slot)
    (step : Option StepId) (success : Bool) :
    Expects registry { f with slots := slots }
        (f.coordinator.endStep f.requestId step success w) h messages ∧
      (f.coordinator.endStep f.requestId step success w).now = w.now := by
  have now := f.coordinator.now_endStep f.requestId expects.attends.prompt step success
  refine ⟨⟨expects.attends.resolved slots step success,
    expects.yields.later (Nat.le_of_eq now.symm), expects.sorted, ?_, ?_⟩, now⟩
  · rw [now]
    exact expects.ahead
  · rw [now]
    exact expects.inTime

/-- A step hears the next message, if it hears one, at the time at which it surfaces. -/
theorem Step.expects (step : Step f w log r f' w') (expects : f.Expects registry w h messages) :
    ∃ h' heard later, f'.Expects registry w' h' later ∧ messages = heard ++ later ∧
      Reading.messages (Call.readings log) = heard.map Surfacing.message ∧ w.now ≤ w'.now ∧
      (∀ s ∈ heard, w'.now = s.ms) ∧
      ∀ q ∈ r, ∃ s, heard = [s] ∧ s.message.sender = q.sender := by
  have ahead := expects.ahead
  cases step with
  | refused failed pending => simp [expects.attends.setup] at failed
  | cutOff awaits read =>
    obtain ⟨h', later, still, ⟨m, s, same, -⟩ | ⟨-, rfl, rfl, le⟩⟩ := expects.received awaits read
    · cases same
    · exact ⟨h', [], [], still, rfl, rfl, le, by simp, by simp⟩
  | idle awaits read =>
    obtain ⟨h', later, still, ⟨m, s, same, -⟩ | ⟨same, -⟩⟩ := expects.received awaits read
    · cases same
    · cases same
  | broken awaits read =>
    obtain ⟨h', later, still, ⟨m, s, same, -⟩ | ⟨same, -⟩⟩ := expects.received awaits read
    · cases same
    · cases same
  | ignored awaits read unknown =>
    obtain ⟨h', later, still, ⟨m, s, same, said, rfl, now⟩ | ⟨same, -⟩⟩ :=
      expects.received awaits read
    · cases same
      exact ⟨h', [s], later, still, rfl, congrArg (fun m => [m]) said,
        now ▸ ahead s List.mem_cons_self, by simpa using now, by simp⟩
    · cases same
  | @reported _ _ _ m _ awaits read known =>
    obtain ⟨h', later, still, ⟨_, s, same, said, rfl, now⟩ | ⟨same, -⟩⟩ :=
      expects.received awaits read
    · cases same
      obtain ⟨ended, atOnce⟩ := still.resolved (fill m.sender m.body.classify f.slots) _
        m.body.classify.isOk
      have closed := atOnce.trans now
      refine ⟨h', [s], later, ended, rfl, congrArg (fun m => [m]) said,
        closed ▸ ahead s List.mem_cons_self, by simpa using closed, fun q report => ?_⟩
      cases report
      exact ⟨s, rfl, congrArg Message.sender said.symm⟩
    · cases same

/-- A run hears the first of the messages to come. -/
theorem Run.expects (run : Run f w log rs f' w') (expects : f.Expects registry w h messages) :
    ∃ h' heard later, f'.Expects registry w' h' later ∧ messages = heard ++ later ∧
      Reading.messages (Call.readings log) = heard.map Surfacing.message ∧ w.now ≤ w'.now ∧
      ∀ s ∈ heard, s.ms ≤ w'.now := by
  induction run generalizing h messages with
  | refl => exact ⟨h, [], messages, expects, rfl, rfl, Nat.le_refl _, by simp⟩
  | step first _ ih =>
    obtain ⟨h', heard, later, still, rfl, read, le, now, -⟩ := first.expects expects
    obtain ⟨h'', heardLater, last, expectsLast, rfl, readLater, leLater, past⟩ := ih still
    refine ⟨h'', heard ++ heardLater, last, expectsLast, (List.append_assoc _ _ _).symm, ?_,
      Nat.le_trans le leLater, ?_⟩
    · rw [Call.readings_append, Reading.messages_append, read, readLater, List.map_append]
    · intro s member
      rcases List.mem_append.1 member with member | member
      · exact now s member ▸ leLater
      · exact past s member

/-- When everybody has been heard it is the time at which the last of them was heard first. -/
theorem Run.closed (run : Run f w log rs f' w') (expects : f.Expects registry w h messages)
    (owed : f.missing ≠ []) (done : f'.missing = []) :
    ∃ q ∈ f.missing, ∃ s, firstOf? messages q = some s ∧ w'.now = s.ms := by
  induction run generalizing h messages with
  | refl => exact absurd done owed
  | @step f f' f'' w w' w'' used log r rs first rest ih =>
    have setup := expects.attends.setup
    obtain ⟨h', heard, later, still, rfl, read, -, now, report⟩ := first.expects expects
    by_cases last : f'.missing = []
    · -- the first step has brought the last report, and nothing happens after it
      obtain ⟨-, -, -, rfl⟩ := rest.eq_of_over still.attends.setup (Or.inl last)
      obtain ⟨known, left⟩ := first.missing
      cases r with
      | none =>
        rw [last] at left
        exact absurd (by simpa using left.symm) owed
      | some q =>
        obtain ⟨s, rfl, sender⟩ := report q rfl
        refine ⟨q.sender, known q rfl, s, ?_, now s List.mem_cons_self⟩
        exact List.find?_cons_of_pos (decide_eq_true sender)
    · obtain ⟨q, member, s, found, closed⟩ := ih still last done
      obtain ⟨before, silent⟩ := first.unheard setup member
      refine ⟨q, before, s, ?_, closed⟩
      have unheard : firstOf? heard q = none := by
        refine List.find?_eq_none.2 fun u member => ?_
        rw [read] at silent
        simpa using silent u.message (List.mem_map_of_mem member)
      unfold firstOf? at *
      rw [List.find?_append, unheard, Option.none_or]
      exact found

/-- Whoever is heard at all is heard before everybody has been. -/
theorem Run.past_of_closed (run : Run f w log rs f' w') (expects : f.Expects registry w h messages)
    (done : f'.missing = []) :
    ∀ q ∈ f.missing, ∀ s ∈ firstOf? messages q, s.ms ≤ w'.now := by
  intro q owed s found
  obtain ⟨m, reply⟩ := run.heard expects.attends.setup done owed
  obtain ⟨h', heard, later, -, rfl, read, -, past⟩ := run.expects expects
  rw [read, firstReply?_map_message] at reply
  obtain ⟨u, first, -⟩ := Option.map_eq_some_iff.1 reply
  have same : firstOf? (heard ++ later) q = some u := by
    unfold firstOf? at *
    rw [List.find?_append, first]
    rfl
  cases same.symm.trans found
  exact past s (List.mem_of_find?_eq_some first)

/--
All who are heard at all report with the message with which they are heard first. Gathering is over
with the last of these messages if nobody is missing, and at the deadline otherwise.
-/
theorem Expects.gathered (expects : f.Expects registry w h messages) {count : Nat}
    (enough : f.missing.length < count) (gathered : f.gather count w = (rs, f', w'))
    (few : messages.length < w.patience) (owed : f.missing ≠ []) :
    ∃ log, Run f w log rs f' w' ∧
      rs = (firstReplies f.missing (messages.map Surfacing.message)).map Resolution.ofMessage ∧
      (f'.missing ≠ [] → w'.now = f.deadline) ∧
      (f'.missing = [] → (∀ q ∈ f.missing, ∀ s ∈ firstOf? messages q, s.ms ≤ w'.now) ∧
        ∃ q ∈ f.missing, ∃ s, firstOf? messages q = some s ∧ w'.now = s.ms) := by
  obtain ⟨log, whole, ended⟩ := expects.attends.gather_over enough gathered
  have replies := whole.replies expects.attends.setup
  obtain ⟨hub, heard, later, expectsLast, split, read, -⟩ := whole.expects expects
  have finished : f'.missing = [] ∨ later = [] ∧ w'.now = f.deadline := by
    rcases ended with (done | late | released) | many
    · exact Or.inl done
    · rcases expectsLast.inTime with early | ⟨nothing, now⟩
      · exact absurd late (Nat.not_le_of_lt early)
      · exact Or.inr ⟨nothing, now.trans whole.sameCall.deadline⟩
    · rw [expectsLast.attends.channel] at released
      cases released
    · -- there are not so many messages
      rw [read, List.length_map] at many
      rw [split, List.length_append] at few
      omega
  refine ⟨log, whole, ?_, fun some => (finished.resolve_left some).2, fun nobody =>
    ⟨whole.past_of_closed expects nobody, whole.closed expects owed nobody⟩⟩
  rw [replies, split, read, List.map_append]
  rcases finished with nobody | ⟨nothing, -⟩
  · rw [firstReplies_append_of_heard]
    intro q owed
    obtain ⟨m, first⟩ := whole.heard expects.attends.setup nobody owed
    rw [read] at first
    exact ⟨m, firstReply?_eq_some first⟩
  · rw [nothing, List.map_nil, List.append_nil]

end FanOut

namespace BroadcastOutcome

open Surfacing (quickest? firstOf? ofReply)

/--
The outcome when recipients follow their scripts: one whose quickest reply comes before the deadline
is listed with it, and all others are missing.
-/
structure FollowsScripts (o : BroadcastOutcome) (scripts : RecipientMap (List Rule))
    (deadline : Nat) (rs : List RecipientId) : Prop where
  succeeded : ∀ r text, o.succeeded.get? r = some text ↔ r ∈ rs ∧
    ∃ a, quickest? scripts r = some a ∧ a.delay < deadline ∧ a.body.classify = .ok text
  failed : ∀ r e, o.failed.get? r = some e ↔ r ∈ rs ∧
    ∃ a, quickest? scripts r = some a ∧ a.delay < deadline ∧ a.body.classify = .error e
  missing : ∀ r, r ∈ o.missing.keys ↔ r ∈ rs ∧
    ∀ a, quickest? scripts r = some a → deadline ≤ a.delay

variable {o o' : BroadcastOutcome} {scripts : RecipientMap (List Rule)} {deadline now : Nat}
  {rs rs' : List RecipientId} {messages : List Surfacing}

theorem Reflects.followsScripts (reflects : o.Reflects rs (messages.map Surfacing.message))
    (first : ∀ r ∈ rs, firstOf? messages r =
      ((quickest? scripts r).filter fun a => a.delay < deadline).map (ofReply now r)) :
    o.FollowsScripts scripts deadline rs := by
  have reply {r : RecipientId} (listed : r ∈ rs) :
      firstReply? (messages.map Surfacing.message) r =
        ((quickest? scripts r).filter fun a => a.delay < deadline).map
          fun a => (ofReply now r a).message := by
    rw [firstReply?_map_message, first r listed, Option.map_map]
    rfl
  have heard {r : RecipientId} (listed : r ∈ rs) (result : Except RemoteError String) :
      (∃ m, firstReply? (messages.map Surfacing.message) r = some m ∧ m.body.classify = result) ↔
        ∃ a, quickest? scripts r = some a ∧ a.delay < deadline ∧ a.body.classify = result := by
    rw [reply listed]
    constructor
    · rintro ⟨m, found, rfl⟩
      obtain ⟨a, kept, rfl⟩ := Option.map_eq_some_iff.1 found
      obtain ⟨quickest, early⟩ := Option.filter_eq_some_iff.1 kept
      exact ⟨a, quickest, of_decide_eq_true early, rfl⟩
    · rintro ⟨a, quickest, early, rfl⟩
      refine ⟨(ofReply now r a).message, ?_, rfl⟩
      rw [Option.filter_eq_some_iff.2 ⟨quickest, decide_eq_true early⟩]
      rfl
  refine ⟨fun r text => ?_, fun r e => ?_, fun r => ?_⟩
  · rw [reflects.succeeded]
    exact and_congr_right fun listed => heard listed _
  · rw [reflects.failed]
    exact and_congr_right fun listed => heard listed _
  · rw [reflects.missing, ← firstReply?_eq_none_iff]
    refine and_congr_right fun listed => ?_
    rw [reply listed, Option.map_eq_none_iff, Option.filter_eq_none_iff]
    simp

/-- Who else is asked makes no difference to a recipient. -/
theorem FollowsScripts.agree (follows : o.FollowsScripts scripts deadline rs)
    (follows' : o'.FollowsScripts scripts deadline rs') {r : RecipientId} (listed : r ∈ rs)
    (listed' : r ∈ rs') :
    o'.succeeded.get? r = o.succeeded.get? r ∧ o'.failed.get? r = o.failed.get? r ∧
      (r ∈ o'.missing.keys ↔ r ∈ o.missing.keys) := by
  refine ⟨Option.ext fun text => ?_, Option.ext fun e => ?_, ?_⟩
  · rw [follows.succeeded, follows'.succeeded, and_iff_right listed, and_iff_right listed']
  · rw [follows.failed, follows'.failed, and_iff_right listed, and_iff_right listed']
  · rw [follows.missing, follows'.missing, and_iff_right listed, and_iff_right listed']

/-- If all replies come in time the last first one is that of the longest delay. -/
theorem exists_longest {closed : Nat}
    (first : ∀ r ∈ rs, firstOf? messages r =
      ((quickest? scripts r).filter fun a => a.delay < deadline).map (ofReply now r))
    (inTime : ∀ r ∈ rs, ∀ a, quickest? scripts r = some a → a.delay < deadline)
    (past : ∀ r ∈ rs, ∀ s ∈ firstOf? messages r, s.ms ≤ closed)
    (last : ∃ q ∈ rs, ∃ s, firstOf? messages q = some s ∧ closed = s.ms) :
    ∃ longest, (rs.filterMap fun r => (quickest? scripts r).map Outbound.delay).max? =
      some longest ∧ closed = now + longest := by
  obtain ⟨q, listed, s, found, rfl⟩ := last
  rw [first q listed] at found
  obtain ⟨a, kept, rfl⟩ := Option.map_eq_some_iff.1 found
  obtain ⟨quickest, -⟩ := Option.filter_eq_some_iff.1 kept
  refine ⟨a.delay, List.max?_eq_some_iff.2 ⟨?_, fun delay member => ?_⟩, rfl⟩
  · exact List.mem_filterMap.2 ⟨q, listed, by rw [quickest]; rfl⟩
  · obtain ⟨r, listedAlso, same⟩ := List.mem_filterMap.1 member
    obtain ⟨b, quick, rfl⟩ := Option.map_eq_some_iff.1 same
    have early : decide (b.delay < deadline) = true := decide_eq_true (inTime r listedAlso b quick)
    have heard : firstOf? messages r = some (ofReply now r b) := by
      rw [first r listedAlso, Option.filter_eq_some_iff.2 ⟨quick, early⟩]
      rfl
    exact Nat.le_of_add_le_add_left (past r listedAlso _ heard)

end BroadcastOutcome

namespace Coordinator

open Surfacing (quickest? firstOf? ofReply replies)

variable (c : Coordinator) {recipients : List RecipientId} {payload : Json} {deadline : Nat}
  {w : World} {n : Network} {scripts : RecipientMap (List Rule)}

/-- What is to come to a fan-out that sets out. -/
theorem exists_expects_setOut (network : w.transport = .network n) (online : n.offline = false)
    (scripted : n.registry = Registry.scripted scripts)
    (forwardless : Surfacing.ForwardsNothing scripts) (prompt : c.recorder.IsPrompt w.journal)
    (positive : 0 < deadline) :
    ∃ h messages, FanOut.Expects n.registry (c.setOut recipients payload deadline w).1
        (c.setOut recipients payload deadline w).2 h messages ∧
      (c.setOut recipients payload deadline w).2.patience = w.patience ∧
      messages.length ≤ ((distinct recipients).flatMap (replies scripts)).length ∧
      ∀ r ∈ recipients, firstOf? messages r =
        ((quickest? scripts r).filter fun a => a.delay < deadline).map (ofReply w.now r) := by
  have asked : (w.newRequest payload).2.transport = .network n := network
  obtain ⟨attends, patience⟩ := FanOut.attends_start c (distinct recipients)
    (w.newRequest payload).1 deadline asked online prompt positive
  obtain ⟨-, opened⟩ := FanOut.timely_start c (distinct recipients) (w.newRequest payload).1
    deadline (w.newRequest payload).2 prompt
  have now : (c.setOut recipients payload deadline w).2.now = w.now := by
    rw [asked] at opened
    exact (opened.ended 0 rfl).1
  obtain ⟨messages, yields, sorted, ahead, few, first⟩ := Hub.exists_yields_quickest forwardless
    (distinct_nodup recipients) (c.topic "broadcast" (w.newRequest payload).1.requestId)
    (w.newRequest payload).1 w.clock (w.now + deadline)
  rw [← scripted] at yields
  refine ⟨_, messages, ⟨attends, yields.later (Nat.le_of_eq now.symm), sorted, ?_, Or.inl ?_⟩,
    patience, few, fun r listed => ?_⟩
  · rw [now]
    exact ahead
  · rw [now]
    exact Nat.lt_add_of_pos_right positive
  · have same : (fun a : Outbound => decide (w.clock.now + a.delay < w.now + deadline)) =
        fun a => decide (a.delay < deadline) :=
      funext fun a => decide_eq_decide.2 Nat.add_lt_add_iff_left
    rw [firstOf?, first r ((mem_distinct _ _).2 listed), same]
    rfl

theorem recipients_ne_nil (accepted : broadcastRefusal? recipients payload deadline = none) :
    recipients ≠ [] := by
  rintro rfl
  cases accepted

/-- The outcome of a broadcast together with the time at which it is over. -/
theorem broadcast_settled (network : w.transport = .network n) (online : n.offline = false)
    (scripted : n.registry = Registry.scripted scripts)
    (forwardless : Surfacing.ForwardsNothing scripts) (prompt : c.recorder.IsPrompt w.journal)
    (accepted : broadcastRefusal? recipients payload deadline = none)
    (few : ((distinct recipients).flatMap (replies scripts)).length < w.patience) :
    ∃ o, (c.broadcast recipients payload deadline w).1 = .ok o ∧
      o.FollowsScripts scripts deadline recipients ∧
      (o.missing.keys ≠ [] →
        (c.broadcast recipients payload deadline w).2.now = w.now + deadline) ∧
      (o.missing.keys = [] → ∃ longest,
        (recipients.filterMap fun r => (quickest? scripts r).map Outbound.delay).max? =
          some longest ∧
        (c.broadcast recipients payload deadline w).2.now = w.now + longest) := by
  obtain ⟨h, messages, expects, patience, most, first⟩ :=
    c.exists_expects_setOut network online scripted forwardless prompt
      (deadline_pos recipients payload deadline accepted)
  have limit : (c.setOut recipients payload deadline w).1.deadline = w.now + deadline := rfl
  rcases started : c.setOut recipients payload deadline w with ⟨f, w'⟩
  rcases gathered : f.gather (f.slots.length + 1) w' with ⟨reports, f', w''⟩
  obtain ⟨all, enough⟩ := missing_lt_slots c started
  rw [started] at expects patience limit
  dsimp only at expects patience limit
  have owed (r : RecipientId) : r ∈ f.missing ↔ r ∈ recipients := by rw [all, mem_distinct]
  have some : f.missing ≠ [] := by
    obtain ⟨r, listed⟩ := List.exists_mem_of_ne_nil _ (recipients_ne_nil accepted)
    exact List.ne_nil_of_mem ((owed r).2 listed)
  obtain ⟨log, run, replied, late, closed⟩ := expects.gathered enough gathered
    (by rw [patience]; exact Nat.lt_of_le_of_lt most few) some
  obtain ⟨_, still, -⟩ := run.attends expects.attends
  obtain ⟨once, -, left⟩ := run.missing
  rw [all] at replied left
  have reflects : (BroadcastOutcome.ofReports f'.requestId reports f'.missing).Reflects recipients
      (messages.map Surfacing.message) := BroadcastOutcome.reflects_ofReports replied once left
  have follows := reflects.followsScripts first
  have nobody : (BroadcastOutcome.ofReports f'.requestId reports f'.missing).missing.keys = [] ↔
      f'.missing = [] := by
    simp only [List.eq_nil_iff_forall_not_mem, BroadcastOutcome.mem_missing_ofReports]
  rw [broadcast_eq c w accepted started gathered, FanOut.now_finish still.prompt]
  refine ⟨_, rfl, follows, fun missing => ?_, fun none => ?_⟩
  · rw [late (mt nobody.2 missing), limit]
  · obtain ⟨past, q, asked, last⟩ := closed (nobody.1 none)
    refine BroadcastOutcome.exists_longest first ?_ (fun r listed => past r ((owed r).2 listed))
      ⟨q, (owed q).1 asked, last⟩
    intro r listed a quickest
    by_contra tooLate
    have absent := (follows.missing r).2 ⟨listed, fun b same => by
      cases same.symm.trans quickest
      exact Nat.le_of_not_lt tooLate⟩
    rw [none] at absent
    exact List.not_mem_nil absent

/--
A broadcast over an online network of scripted participants who forward nothing, with a store that
takes no time and patience for every reply. Each recipient is listed with its quickest reply if that
comes before the deadline, and is missing otherwise. The broadcast is over with the slowest of these
replies if nobody is missing, and at the deadline otherwise. Who else is asked, in which order and
how often, makes no difference to a recipient.
-/
theorem broadcast_follows_scripts (network : w.transport = .network n) (online : n.offline = false)
    (scripted : n.registry = Registry.scripted scripts)
    (forwardless : Surfacing.ForwardsNothing scripts) (prompt : c.recorder.IsPrompt w.journal)
    (accepted : broadcastRefusal? recipients payload deadline = none)
    (few : ((distinct recipients).flatMap (replies scripts)).length < w.patience) :
    ∃ o, (c.broadcast recipients payload deadline w).1 = .ok o ∧
      o.FollowsScripts scripts deadline recipients ∧
      (o.missing.keys ≠ [] →
        (c.broadcast recipients payload deadline w).2.now = w.now + deadline) ∧
      (o.missing.keys = [] → ∃ longest,
        (recipients.filterMap fun r => (quickest? scripts r).map Outbound.delay).max? =
          some longest ∧
        (c.broadcast recipients payload deadline w).2.now = w.now + longest) ∧
      ∀ others, broadcastRefusal? others payload deadline = none →
        ((distinct others).flatMap (replies scripts)).length < w.patience →
        ∃ o', (c.broadcast others payload deadline w).1 = .ok o' ∧
          ∀ r ∈ recipients, r ∈ others →
            o'.succeeded.get? r = o.succeeded.get? r ∧ o'.failed.get? r = o.failed.get? r ∧
              (r ∈ o'.missing.keys ↔ r ∈ o.missing.keys) := by
  obtain ⟨o, done, follows, late, closed⟩ :=
    c.broadcast_settled network online scripted forwardless prompt accepted few
  refine ⟨o, done, follows, late, closed, fun others accepted' few' => ?_⟩
  obtain ⟨o', done', follows', -⟩ :=
    c.broadcast_settled network online scripted forwardless prompt accepted' few'
  exact ⟨o', done', fun r listed listed' => follows.agree follows' listed listed'⟩

end Coordinator

/-- One who has two answers of one delay, one who is busy and one who takes five milliseconds. -/
def Surfacing.roundupRehearsal : RecipientMap (List Rule) :=
  ⟨[(⟨"a"⟩, [⟨.request, ⟨.payload (.string "late"), [], 4⟩⟩,
      ⟨.any, ⟨.payload (.string "hi"), [], 2⟩⟩, ⟨.request, ⟨.rejected "again", [], 2⟩⟩,
      ⟨.forwardedBy ⟨"b"⟩, ⟨.empty, [], 0⟩⟩]),
    (⟨"b"⟩, [⟨.any, ⟨.rejected "busy", [], 3⟩⟩]),
    (⟨"c"⟩, [⟨.request, ⟨.payload (.string "yes"), [], 5⟩⟩])], by decide⟩

def Network.roundupRehearsal : Network :=
  ⟨Registry.scripted Surfacing.roundupRehearsal, false, 0, [], fun _ => ⟨0, 0⟩⟩

def World.roundupRehearsal : World :=
  { rehearsal [] with
    transport := .network Network.roundupRehearsal
    patience := 10 }

namespace Coordinator

/-- Five milliseconds are not enough for the last of them; without it three are. -/
theorem broadcast_follows_scripts_rehearsal :
    (∃ o, (rehearsal.broadcast [⟨"c"⟩, ⟨"a"⟩, ⟨"b"⟩, ⟨"a"⟩, ⟨"x"⟩] (.string "hi") 5
          World.roundupRehearsal).1 = .ok o ∧
        o.succeeded.get? ⟨"a"⟩ = some "hi" ∧ o.failed.get? ⟨"b"⟩ = some ⟨.remoteRejected, "busy"⟩ ∧
        ⟨"c"⟩ ∈ o.missing.keys ∧ ⟨"x"⟩ ∈ o.missing.keys ∧
        (rehearsal.broadcast [⟨"c"⟩, ⟨"a"⟩, ⟨"b"⟩, ⟨"a"⟩, ⟨"x"⟩] (.string "hi") 5
          World.roundupRehearsal).2.now = 0 + 5) ∧
      (rehearsal.broadcast [⟨"b"⟩, ⟨"a"⟩] (.string "hi") 5 World.roundupRehearsal).2.now =
        0 + 3 := by
  have forwardless : Surfacing.ForwardsNothing Surfacing.roundupRehearsal := by
    have all : ∀ e ∈ Surfacing.roundupRehearsal.entries, ∀ rule ∈ e.2,
        rule.outbound.forwardTo = [] := by
      decide
    intro r rules registered
    exact all (r, rules) ((RecipientMap.mem_entries_iff _ r rules).2 registered)
  have prompt : rehearsal.recorder.IsPrompt World.roundupRehearsal.journal := by
    intro d member
    cases member
  refine ⟨?_, ?_⟩
  · obtain ⟨o, done, follows, late, -⟩ := rehearsal.broadcast_follows_scripts
      (w := World.roundupRehearsal) (n := Network.roundupRehearsal)
      rfl rfl rfl forwardless prompt
      (show broadcastRefusal? [⟨"c"⟩, ⟨"a"⟩, ⟨"b"⟩, ⟨"a"⟩, ⟨"x"⟩] (.string "hi") 5 = none by decide)
      (by decide)
    have missing : ⟨"c"⟩ ∈ o.missing.keys := by
      refine (follows.missing _).2 ⟨by decide, fun a quickest => ?_⟩
      cases quickest
      decide
    refine ⟨o, done, (follows.succeeded _ _).2 ⟨by decide, _, rfl, by decide, rfl⟩,
      (follows.failed _ _).2 ⟨by decide, _, rfl, by decide, rfl⟩, missing,
      (follows.missing _).2 ⟨by decide, fun a quickest => by cases quickest⟩,
      late (List.ne_nil_of_mem missing)⟩
  · obtain ⟨o, done, follows, -, closed, -⟩ := rehearsal.broadcast_follows_scripts
      (w := World.roundupRehearsal) (n := Network.roundupRehearsal)
      rfl rfl rfl forwardless prompt
      (show broadcastRefusal? [⟨"b"⟩, ⟨"a"⟩] (.string "hi") 5 = none by decide) (by decide)
    have none : o.missing.keys = [] := by
      refine List.eq_nil_iff_forall_not_mem.2 fun r absent => ?_
      obtain ⟨listed, late⟩ := (follows.missing r).1 absent
      rcases List.mem_cons.1 listed with rfl | listed
      · exact absurd (late _ rfl) (by decide)
      · cases List.mem_singleton.1 listed
        exact absurd (late _ rfl) (by decide)
    obtain ⟨longest, most, now⟩ := closed none
    cases most
    exact now

end Coordinator

end RollCall
