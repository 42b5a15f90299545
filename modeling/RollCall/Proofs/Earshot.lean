import RollCall.Proofs.Bystanders
import RollCall.Proofs.Routing
import RollCall.Session

set_option autoImplicit false

/-!
Who is asked what. A participant is only asked by way of a task of a request. Where no task of a
request is left and the request is not published again, it makes no difference what the participants
would do about it: a network with others in their places goes on in exactly the same way.
-/
namespace RollCall

variable {id : RequestId} {change : RecipientId → Participant → Participant}

/-- A change of participants that shows only when they are given a message of one request. -/
def ShowsOnlyOn (id : RequestId) (change : RecipientId → Participant → Participant) : Prop :=
  ∀ r p m, m.requestId ≠ id → change r p m = p m

theorem ShowsOnlyOn.answers (shows : ShowsOnlyOn id change) (r : RecipientId) (p : Participant)
    {m : Inbound} (elsewhere : m.requestId ≠ id) : (change r p).answers m = p.answers m := by
  unfold Participant.answers
  rw [shows r p m elsewhere]

def Registry.altered (change : RecipientId → Participant → Participant) (registry : Registry) :
    Registry :=
  ⟨registry.entries.map fun e => (e.1, change e.1 e.2), List.pairwise_map.2 registry.ordered⟩

def Transport.altered (change : RecipientId → Participant → Participant) : Transport → Transport
  | .network n => .network { n with registry := n.registry.altered change }
  | .playback p => .playback p

def World.altered (change : RecipientId → Participant → Participant) (w : World) : World :=
  { w with transport := w.transport.altered change }

namespace Registry

variable (change) (registry : Registry) (r : RecipientId) (p : Participant)

theorem get?_altered : (registry.altered change).get? r = (registry.get? r).map (change r) := by
  show List.lookup r (registry.entries.map fun e => (e.1, change e.1 e.2)) =
    (List.lookup r registry.entries).map (change r)
  induction registry.entries with
  | nil => rfl
  | cons e rest ih =>
    rw [List.map_cons, List.lookup_cons, List.lookup_cons, ih]
    split
    · rename_i same
      rw [beq_iff_eq.1 same]
      rfl
    · rfl

theorem insert_altered :
    (registry.altered change).insert r (change r p) =
      Registry.altered change (registry.insert r p) := by
  have entries (es : List (RecipientId × Participant)) :
      RecipientMap.insertEntry r (change r p) (es.map fun e => (e.1, change e.1 e.2)) =
        (RecipientMap.insertEntry r p es).map fun e => (e.1, change e.1 e.2) := by
    induction es with
    | nil => rfl
    | cons e rest ih =>
      obtain ⟨s, q⟩ := e
      rw [List.map_cons, RecipientMap.insertEntry, RecipientMap.insertEntry, ih]
      split
      · rfl
      · split <;> rfl
  unfold altered RecipientMap.insert
  congr 1
  exact entries registry.entries

theorem erase_altered :
    (registry.altered change).erase r = Registry.altered change (registry.erase r) := by
  unfold altered RecipientMap.erase
  congr 1
  exact List.filter_map

end Registry

namespace Hub

variable {registry : Registry} {moment bound : Moment} {h h' : Hub} {t : Task}

def Clear (id : RequestId) (h : Hub) : Prop := ∀ t ∈ h.tasks, t.requestId ≠ id

theorem started_altered (shows : ShowsOnlyOn id change) {m : Inbound} (elsewhere : m.requestId ≠ id)
    (targets : List RecipientId) :
    started (registry.altered change) moment m targets = started registry moment m targets := by
  unfold started
  refine List.filterMap_congr fun r _ => ?_
  rw [Registry.get?_altered, Option.map_map]
  refine congrArg (fun f => Option.map f _) (funext fun p => ?_)
  rw [Function.comp_apply, shows.answers r p elsewhere]

theorem requestId_started {m : Inbound} {targets : List RecipientId} :
    ∀ t ∈ started registry moment m targets, t.requestId = m.requestId := by
  intro t member
  obtain ⟨r, -, found⟩ := List.mem_filterMap.1 member
  obtain ⟨p, -, rfl⟩ := Option.map_eq_some_iff.1 found
  rfl

theorem publish_altered (shows : ShowsOnlyOn id change) {request : Request}
    (elsewhere : request.requestId ≠ id) (h : Hub) :
    h.publish (registry.altered change) moment request = h.publish registry moment request := by
  cases closed : h.closed with
  | true =>
    unfold publish
    rw [foldl_deliver_of_closed _ _ closed, foldl_deliver_of_closed _ _ closed]
  | false =>
    rw [publish_eq _ closed, publish_eq _ closed,
      started_altered (m := ⟨request.requestId, none, .payload request.payload⟩) shows elsewhere]

theorem Clear.publish (clear : h.Clear id) {request : Request} (elsewhere : request.requestId ≠ id) :
    (h.publish registry moment request).Clear id := by
  cases closed : h.closed with
  | true =>
    unfold Hub.publish
    rw [foldl_deliver_of_closed _ _ closed]
    exact clear
  | false =>
    rw [publish_eq _ closed]
    intro t member
    rcases List.mem_append.1 member with waits | new
    · exact clear t (List.mem_append_left _ waits)
    · rcases List.mem_append.1 new with before | begun
      · exact clear t (List.mem_append_right _ before)
      · rw [requestId_started t begun]
        exact elsewhere

/-- A task of another request starts none of this one. -/
theorem act_altered (shows : ShowsOnlyOn id change) (elsewhere : t.requestId ≠ id)
    (outbounds : List Outbound) (h : Hub) :
    act (registry.altered change) moment t outbounds h = act registry moment t outbounds h := by
  induction outbounds generalizing h with
  | nil => rfl
  | cons o rest ih =>
    by_cases due : t.received + o.delay ≤ moment.ms
    · cases closed : h.closed with
      | true => rw [act_of_closed closed due, act_of_closed closed due]
      | false =>
        rw [act_of_due closed due, act_of_due closed due, ih,
          started_altered (m := ⟨t.requestId, some t.owner, o.body⟩) shows elsewhere]
    · rw [act, act, if_neg due, if_neg due]

/-- The tasks that a task leaves are about its request. -/
theorem mem_tasks_act {outbounds : List Outbound} {u : Task}
    (left : u ∈ (act registry moment t outbounds h).tasks) :
    u ∈ h.tasks ∨ u.requestId = t.requestId := by
  induction outbounds generalizing h with
  | nil => exact .inl left
  | cons o rest ih =>
    by_cases due : t.received + o.delay ≤ moment.ms
    · cases closed : h.closed with
      | true =>
        rw [act_of_closed closed due] at left
        exact .inl left
      | false =>
        rw [act_of_due closed due] at left
        rcases ih left with held | own
        · rw [tasks, ← List.append_assoc] at held
          exact (List.mem_append.1 held).imp_right (requestId_started u)
        · exact .inr own
    · rw [act, if_neg due] at left
      rw [tasks] at left ⊢
      rcases List.mem_append.1 left with waits | new
      · rcases List.mem_append.1 waits with before | own
        · exact .inl (List.mem_append_left _ before)
        · right
          rw [List.mem_singleton.1 own]
      · exact .inl (List.mem_append_right _ new)

theorem Clear.step (clear : h.Clear id) (step : h.step? registry bound = some h') :
    h'.Clear id := by
  obtain ⟨t, rest, next, -, rfl⟩ := step?_cases step
  have perm := perm_of_next? next
  have elsewhere := clear t (perm.mem_iff.1 List.mem_cons_self)
  intro u member
  rcases mem_tasks_act member with other | own
  · exact clear u (perm.mem_iff.1 (List.mem_cons_of_mem t other))
  · exact own ▸ elsewhere

/-- A channel that is given back has no task left. -/
theorem clear_close (id : RequestId) (h : Hub) : h.close.Clear id :=
  fun _ member => absurd member List.not_mem_nil

theorem Clear.step_altered (clear : h.Clear id) (shows : ShowsOnlyOn id change) :
    h.step? (registry.altered change) bound = h.step? registry bound := by
  unfold step?
  cases next : h.next? with
  | none => rfl
  | some found =>
    obtain ⟨t, rest⟩ := found
    have elsewhere := clear t ((perm_of_next? next).mem_iff.1 List.mem_cons_self)
    dsimp only
    rw [act_altered shows elsewhere]

theorem Clear.run (clear : h.Clear id) (shows : ShowsOnlyOn id change) (registry : Registry)
    (bound : Moment) (count : Nat) :
    h.run (registry.altered change) bound count = h.run registry bound count ∧
      (h.run registry bound count).Clear id := by
  induction count generalizing h with
  | zero => exact ⟨rfl, clear⟩
  | succ count ih =>
    rw [Hub.run, Hub.run, clear.step_altered shows]
    cases step : h.step? registry bound with
    | none => exact ⟨rfl, clear⟩
    | some h' => exact ih (clear.step step)

theorem Clear.runToMessage (clear : h.Clear id) (shows : ShowsOnlyOn id change)
    (registry : Registry) (bound : Moment) (count : Nat) :
    h.runToMessage (registry.altered change) bound count = h.runToMessage registry bound count ∧
      (h.runToMessage registry bound count).Clear id := by
  induction count generalizing h with
  | zero => exact ⟨rfl, clear⟩
  | succ count ih =>
    rw [Hub.runToMessage, Hub.runToMessage, clear.step_altered shows]
    split
    · cases step : h.step? registry bound with
      | none => exact ⟨rfl, clear⟩
      | some h' => exact ih (clear.step step)
    · exact ⟨rfl, clear⟩

theorem Clear.receive (clear : h.Clear id) (shows : ShowsOnlyOn id change) (registry : Registry)
    (clock : Clock) (limit : Nat) :
    h.receive (registry.altered change) clock limit = h.receive registry clock limit ∧
      (h.receive registry clock limit).2.1.Clear id := by
  obtain ⟨same, still⟩ := clear.runToMessage shows registry
    (clock.moment.latest (Moment.start limit)) (h.fresh.length + 1)
  simp only [Hub.receive, same, true_and]
  generalize h.runToMessage registry (clock.moment.latest (Moment.start limit))
    (h.fresh.length + 1) = ran at still
  cases inbox : ran.inbox with
  | nil => exact still
  | cons a rest => exact still

end Hub

def Channel.Clear (id : RequestId) : Channel → Prop
  | .hub h => h.Clear id
  | .playback _ => True

theorem Channel.Clear.settle {c : Channel} (clear : c.Clear id) (shows : ShowsOnlyOn id change)
    (registry : Registry) (moment : Moment) (patience : Nat) :
    c.settle (registry.altered change) moment patience = c.settle registry moment patience ∧
      (c.settle registry moment patience).Clear id := by
  cases c with
  | hub h =>
    obtain ⟨same, still⟩ := Hub.Clear.run clear shows registry moment patience
    exact ⟨congrArg Channel.hub same, still⟩
  | playback c => exact ⟨rfl, trivial⟩

theorem Transport.wallClock_altered (change : RecipientId → Participant → Participant)
    (t : Transport) : (t.altered change).wallClock = t.wallClock := by
  cases t <;> rfl

theorem Transport.registry_altered (change : RecipientId → Participant → Participant)
    (t : Transport) : (t.altered change).registry = t.registry.altered change := by
  cases t with
  | network n => rfl
  | playback p => rfl

/-- Where no task of the request is left on what was given back, running it asks nobody for it. -/
theorem Transport.settle_altered (shows : ShowsOnlyOn id change) {t : Transport}
    (clear : ∀ h ∈ t.released, h.Clear id) (moment : Moment) (patience : Nat) :
    (t.altered change).settle moment patience = (t.settle moment patience).altered change := by
  cases t with
  | network n =>
    have same : n.released.map (·.run (n.registry.altered change) moment patience) =
        n.released.map (·.run n.registry moment patience) :=
      List.map_congr_left fun h member => ((clear h member).run shows _ moment patience).1
    simp only [Transport.altered, Transport.settle, Network.settle, same]
  | playback p => rfl

namespace World

variable {w w' : World} {c c' : Channel}

theorem await_altered (change : RecipientId → Participant → Participant) (delay : Option Nat)
    (w : World) : (w.altered change).await delay = (w.await delay).altered change := by
  cases delay <;> rfl

theorem openChannel_altered (id : RequestId) (change : RecipientId → Participant → Participant)
    (topic : String) (recipients : List RecipientId) (w : World) :
    (w.altered change).openChannel topic recipients =
        ((w.openChannel topic recipients).1, (w.openChannel topic recipients).2.altered change) ∧
      ∀ ch, (w.openChannel topic recipients).1 = .ok ch → ch.Clear id := by
  obtain ⟨journal, transport, calls, requestCount, patience, stuck⟩ := w
  cases transport with
  | network n =>
    by_cases offline : n.offline = true
    · refine ⟨?_, ?_⟩
      · simp only [openChannel, altered, Transport.altered, Transport.openChannel, Network.openHub,
          if_pos offline]
        rfl
      · simp only [openChannel, Transport.openChannel, Network.openHub, if_pos offline]
        intro ch opened
        cases opened
    · refine ⟨?_, ?_⟩
      · simp only [openChannel, altered, Transport.altered, Transport.openChannel, Network.openHub,
          if_neg offline]
        rfl
      · simp only [openChannel, Transport.openChannel, Network.openHub, if_neg offline]
        intro ch opened
        cases opened
        exact fun t member => absurd member List.not_mem_nil
  | playback p =>
    have scripted := await_altered change (p.openNext topic).2.1
      ⟨journal, .playback (p.openNext topic).2.2, .open topic recipients :: calls, requestCount,
        patience, stuck⟩
    refine ⟨Prod.ext rfl scripted, ?_⟩
    intro ch opened
    simp only [openChannel, Transport.openChannel] at opened
    cases outcome : (p.openNext topic).1 with
    | error e =>
      rw [outcome] at opened
      cases opened
    | ok script =>
      rw [outcome] at opened
      cases opened
      exact trivial

theorem publish_altered (shows : ShowsOnlyOn id change) {request : Request}
    (elsewhere : request.requestId ≠ id) (c : Channel) (w : World) :
    (w.altered change).publish request c =
      ((w.publish request c).1, (w.publish request c).2.altered change) := by
  unfold publish
  refine Prod.ext ?_ (await_altered change c.publishDelay (w.log (.publish request.payload)))
  cases c with
  | hub h =>
    show Except.ok (Channel.hub _) = Except.ok (Channel.hub _)
    rw [altered, Transport.registry_altered, Hub.publish_altered shows elsewhere]
    rfl
  | playback s => rfl

theorem clear_publish {request : Request} (elsewhere : request.requestId ≠ id) (clear : c.Clear id)
    (published : (w.publish request c).1 = .ok c') : c'.Clear id := by
  cases c with
  | hub h =>
    cases published
    exact Hub.Clear.publish clear elsewhere
  | playback s =>
    simp only [publish, Transport.publish] at published
    cases refused : s.publishError with
    | some e =>
      rw [refused] at published
      cases published
    | none =>
      rw [refused] at published
      cases published
      exact trivial

theorem receive_altered (shows : ShowsOnlyOn id change) (clear : c.Clear id) (limit : Nat)
    (w : World) :
    (w.altered change).receive c limit =
        ((w.receive c limit).1, (w.receive c limit).2.1, (w.receive c limit).2.2.altered change) ∧
      (w.receive c limit).2.1.Clear id := by
  cases c with
  | hub h =>
    obtain ⟨same, still⟩ := Hub.Clear.receive clear shows w.transport.registry w.clock limit
    refine ⟨?_, still⟩
    rw [← Transport.registry_altered] at same
    have stamps : (w.altered change).transport.wallClock = w.transport.wallClock :=
      w.transport.wallClock_altered change
    simp only [receive, Transport.receive]
    rw [stamps,
      show (w.altered change).transport.registry = (w.transport.altered change).registry from rfl,
      show (w.altered change).clock = w.clock from rfl, same]
    rfl
  | playback s => exact ⟨rfl, trivial⟩

theorem release_altered (change : RecipientId → Participant → Participant) (c : Channel)
    (w : World) : (w.altered change).release c = (w.release c).altered change := by
  obtain ⟨journal, transport, calls, requestCount, patience, stuck⟩ := w
  cases transport with
  | network n => rfl
  | playback p => rfl

theorem send_altered (shows : ShowsOnlyOn id change) {request : Request}
    (elsewhere : request.requestId ≠ id) (recipient : RecipientId) (limit : Nat) (w : World) :
    (w.altered change).send recipient request limit =
      ((w.send recipient request limit).1, (w.send recipient request limit).2.altered change) := by
  have answer : (w.transport.altered change).answer? recipient request =
      ((w.transport.answer? recipient request).1,
        (w.transport.answer? recipient request).2.altered change) := by
    cases w.transport with
    | network n =>
      show (_, _) = (_, _)
      simp only [Network.answer?, Transport.answer?, Transport.altered]
      rw [Registry.get?_altered]
      cases n.registry.get? recipient with
      | none => rfl
      | some p =>
        simp only [Option.map_some]
        rw [shows.answers recipient p (m := ⟨request.requestId, none, .payload request.payload⟩)
          elsewhere]
    | playback p =>
      simp only [Transport.answer?, Transport.altered]
      cases p.answers <;> rfl
  simp only [send]
  rw [show (w.altered change).transport = w.transport.altered change from rfl, answer]
  dsimp only
  cases (w.transport.answer? recipient request).1 with
  | none => rfl
  | some timed =>
    obtain ⟨ms, result⟩ := timed
    let alter (o : Option (Except Error ReplyBody) × World) := (o.1, o.2.altered change)
    let v : World := { w.log (.send recipient request.payload) with
      transport := (w.transport.answer? recipient request).2 }
    exact (apply_ite alter (v.now + ms ≤ limit) (some result, v.wait ms)
      (none, v.withClock (v.clock.waitUntil limit))).symm

theorem connect_altered (shows : ShowsOnlyOn id change) {request : Request}
    (elsewhere : request.requestId ≠ id) (topic : String) (recipients : List RecipientId)
    (w : World) :
    (w.altered change).connect topic recipients request =
        ((w.connect topic recipients request).1,
          (w.connect topic recipients request).2.altered change) ∧
      ∀ ch, (w.connect topic recipients request).1 = .ok ch → ch.Clear id := by
  obtain ⟨opens, clear⟩ := openChannel_altered id change topic recipients w
  unfold connect
  rw [opens]
  rcases opening : w.openChannel topic recipients with ⟨outcome, v⟩
  rw [opening] at clear
  cases outcome with
  | error e =>
    refine ⟨rfl, fun ch connected => ?_⟩
    cases connected
  | ok ch =>
    have clear := clear ch rfl
    dsimp only
    rw [publish_altered shows elsewhere]
    rcases published : v.publish request ch with ⟨outcome, u⟩
    cases outcome with
    | error e =>
      dsimp only
      rw [release_altered]
      refine ⟨rfl, fun ch connected => ?_⟩
      cases connected
    | ok ch' =>
      refine ⟨rfl, ?_⟩
      intro c connected
      cases connected
      exact clear_publish elsewhere clear (congrArg Prod.fst published)

end World

namespace FanOut

variable {c : Coordinator} {f : FanOut}

def Clear (id : RequestId) (f : FanOut) : Prop := ∀ ch ∈ f.channel, ch.Clear id

theorem clear_of_released (released : f.channel = none) : f.Clear id := by
  intro ch held
  rw [released] at held
  cases held

theorem start_altered (shows : ShowsOnlyOn id change) (c : Coordinator)
    (recipients : List RecipientId) {request : Request} (elsewhere : request.requestId ≠ id)
    (wait : Nat) (w : World) :
    start c recipients request wait (w.altered change) =
        ((start c recipients request wait w).1,
          (start c recipients request wait w).2.altered change) ∧
      (start c recipients request wait w).1.Clear id := by
  obtain ⟨connects, clear⟩ := World.connect_altered shows elsewhere
    (c.topic "broadcast" request.requestId) recipients w
  rcases connected : w.connect (c.topic "broadcast" request.requestId) recipients request with
    ⟨outcome, v⟩
  rw [connected] at connects clear
  refine ⟨?_, ?_⟩
  · simp only [start, connects, connected]
    rfl
  · intro ch held
    simp only [start, connected] at held
    cases outcome with
    | error fault => cases held
    | ok ch' =>
      cases held
      exact clear _ rfl

theorem releaseChannel_altered (change : RecipientId → Participant → Participant) (f : FanOut)
    (w : World) :
    f.releaseChannel (w.altered change) =
      ((f.releaseChannel w).1, (f.releaseChannel w).2.altered change) := by
  unfold releaseChannel
  cases f.channel with
  | none => rfl
  | some ch =>
    dsimp only
    rw [World.release_altered]

theorem heed_altered (change : RecipientId → Participant → Participant) (clear : f.Clear id)
    (reading : Reading) (w : World) :
    f.heed reading (w.altered change) =
        ((f.heed reading w).1, (f.heed reading w).2.1, (f.heed reading w).2.2.altered change) ∧
      (f.heed reading w).2.1.Clear id := by
  cases reading with
  | cutOff => exact ⟨rfl, clear⟩
  | nothing => exact ⟨rfl, clear⟩
  | failed e =>
    simp only [heed, releaseChannel_altered, true_and]
    rw [(releaseChannel_spec _ w).1]
    exact clear_of_released rfl
  | message m =>
    simp only [heed]
    cases f.pendingStep? m.sender with
    | none => exact ⟨rfl, clear⟩
    | some step => exact ⟨rfl, clear⟩

theorem readOnce_altered (shows : ShowsOnlyOn id change) (clear : f.Clear id) (w : World) :
    f.readOnce (w.altered change) =
        ((f.readOnce w).1, (f.readOnce w).2.1, (f.readOnce w).2.2.altered change) ∧
      (f.readOnce w).2.1.Clear id := by
  unfold readOnce
  rw [show (w.altered change).now = w.now from rfl]
  split
  · exact ⟨rfl, clear⟩
  · cases channel : f.channel with
    | none => exact ⟨rfl, clear⟩
    | some ch =>
      obtain ⟨received, still⟩ := World.receive_altered shows (clear ch channel) f.deadline w
      dsimp only
      rw [received]
      exact heed_altered change (f := { f with channel := some (w.receive ch f.deadline).2.1 })
        (fun ch held => Option.some.inj held ▸ still) _ _

theorem readOn_altered (shows : ShowsOnlyOn id change) (allowance : Nat) (clear : f.Clear id)
    (w : World) :
    f.readOn allowance (w.altered change) =
        ((f.readOn allowance w).1, (f.readOn allowance w).2.1,
          (f.readOn allowance w).2.2.altered change) ∧
      (f.readOn allowance w).2.1.Clear id := by
  induction allowance generalizing f w with
  | zero => exact ⟨rfl, clear⟩
  | succ allowance ih =>
    obtain ⟨same, still⟩ := readOnce_altered shows clear w
    rw [readOn, readOn, same]
    rcases read : f.readOnce w with ⟨_ | _ | _, f', w'⟩
    all_goals rw [read] at still
    · exact ⟨rfl, still⟩
    · exact ih still w'
    · exact ⟨rfl, still⟩

theorem next_altered (shows : ShowsOnlyOn id change) (clear : f.Clear id) (w : World) :
    f.next (w.altered change) =
        ((f.next w).1, (f.next w).2.1, (f.next w).2.2.altered change) ∧
      (f.next w).2.1.Clear id := by
  unfold next
  cases f.setupFailure with
  | some failure =>
    cases f.firstPending? with
    | some r => exact ⟨rfl, clear⟩
    | none => exact ⟨rfl, clear⟩
  | none => exact readOn_altered shows (f.allowance w) clear w

theorem linger_altered (shows : ShowsOnlyOn id change) (looks : Nat) (clear : f.Clear id)
    (w : World) :
    f.linger looks (w.altered change) =
        ((f.linger looks w).1, (f.linger looks w).2.altered change) ∧
      (f.linger looks w).1.Clear id := by
  unfold linger
  cases f.setupFailure with
  | some failure => exact ⟨rfl, clear⟩
  | none =>
    obtain ⟨same, still⟩ := readOn_altered shows looks clear w
    exact ⟨congrArg Prod.snd same, still⟩

theorem gather_altered (shows : ShowsOnlyOn id change) (count : Nat) (clear : f.Clear id)
    (w : World) :
    f.gather count (w.altered change) =
      ((f.gather count w).1, (f.gather count w).2.1, (f.gather count w).2.2.altered change) := by
  induction count generalizing f w with
  | zero => rfl
  | succ count ih =>
    obtain ⟨same, still⟩ := next_altered shows clear w
    rw [gather, gather, same]
    rcases advanced : f.next w with ⟨_ | r, f', w'⟩
    · rfl
    · rw [advanced] at still
      dsimp only
      rw [ih still w']

theorem finish_altered (change : RecipientId → Participant → Participant) (f : FanOut)
    (w : World) :
    f.finish (w.altered change) = ((f.finish w).1, (f.finish w).2.altered change) := by
  unfold finish
  rw [releaseChannel_altered]
  rfl

end FanOut

def StreamStage.Clear (id : RequestId) : StreamStage → Prop
  | .running f => f.Clear id
  | _ => True

theorem FanOut.nextEvent_altered {f : FanOut} (shows : ShowsOnlyOn id change) (clear : f.Clear id)
    (w : World) :
    f.nextEvent (w.altered change) =
        ((f.nextEvent w).1, (f.nextEvent w).2.1, (f.nextEvent w).2.2.altered change) ∧
      (f.nextEvent w).2.1.Clear id := by
  obtain ⟨same, still⟩ := next_altered shows clear w
  rcases advanced : f.next w with ⟨_ | r, f', w'⟩
  · rw [advanced] at same
    rw [nextEvent_of_last advanced, nextEvent_of_last same, finish_altered]
    exact ⟨rfl, trivial⟩
  · rw [advanced] at same still
    rw [nextEvent_of_report advanced, nextEvent_of_report same]
    exact ⟨rfl, still⟩

namespace BroadcastStream

variable {s : BroadcastStream} {c : Coordinator}

theorem use_altered_of_running (shows : ShowsOnlyOn id change) {f : FanOut}
    (running : s.stage = .running f) (clear : f.Clear id) (w : World) (a : StreamUse) :
    s.use (w.altered change) a = ((s.use w a).1, (s.use w a).2.altered change) ∧
      (s.use w a).1.stage.Clear id := by
  cases a with
  | poll =>
    obtain ⟨same, still⟩ := FanOut.nextEvent_altered shows clear w
    simp only [use, next, running, same, true_and]
    exact still
  | glance looks =>
    obtain ⟨same, still⟩ := FanOut.linger_altered shows looks clear w
    simp only [use, running, same, true_and]
    exact still

/-- A use of a stream of another request asks nobody for this one. -/
theorem use_altered (shows : ShowsOnlyOn id change) (apart : s.stage.Apart c (· = id))
    (clear : s.stage.Clear id) (w : World) (a : StreamUse) :
    s.use (w.altered change) a = ((s.use w a).1, (s.use w a).2.altered change) ∧
      (s.use w a).1.stage.Clear id := by
  cases stage : s.stage with
  | idle c' recipients request deadline =>
    rw [stage] at apart
    obtain ⟨begins, still⟩ := FanOut.start_altered shows c' recipients apart.2 deadline w
    rw [use_idle stage begins, use_idle (w := w) stage rfl]
    exact use_altered_of_running shows rfl still _ a
  | running f =>
    rw [stage] at clear
    exact use_altered_of_running shows stage clear w a
  | ended =>
    rw [stage] at clear
    cases a with
    | poll =>
      simp only [use, next, stage, true_and]
      exact clear
    | glance looks =>
      simp only [use, stage, true_and]
      exact clear

theorem abandon_altered (change : RecipientId → Participant → Participant) (s : BroadcastStream)
    (w : World) : s.abandon (w.altered change) = (s.abandon w).altered change := by
  unfold abandon
  cases s.stage with
  | idle c recipients request deadline => rfl
  | running f =>
    dsimp only
    rw [FanOut.releaseChannel_altered]
  | ended => rfl

end BroadcastStream

theorem Watch.readOn_altered (shows : ShowsOnlyOn id change) (allowance : Nat) {ch : Channel}
    (clear : ch.Clear id) (s : Watch) (w : World) :
    Watch.readOn allowance ch s (w.altered change) =
      ((Watch.readOn allowance ch s w).1, (Watch.readOn allowance ch s w).2.1,
        (Watch.readOn allowance ch s w).2.2.altered change) := by
  induction allowance generalizing ch s w with
  | zero => rfl
  | succ allowance ih =>
    obtain ⟨received, still⟩ := World.receive_altered shows clear s.deadline w
    rw [Watch.readOn, Watch.readOn, received]
    rw [show (w.altered change).now = w.now from rfl]
    split
    · rfl
    · rcases read : w.receive ch s.deadline with ⟨reading, ch', w'⟩
      rw [read] at still
      cases reading with
      | cutOff => rfl
      | nothing => exact ih still s w'
      | failed e => rfl
      | message m =>
        have seen : s.see m (w'.altered change) =
            ((s.see m w').1, (s.see m w').2.altered change) := rfl
        dsimp only
        rw [seen]
        dsimp only
        split
        · rfl
        · exact ih still _ _

namespace Coordinator

variable (c : Coordinator) {w : World}

theorem dispatch_altered (shows : ShowsOnlyOn id change) (timeout : Span) (recipient : RecipientId)
    {request : Request} (elsewhere : request.requestId ≠ id) (w : World) :
    c.dispatch timeout recipient request (w.altered change) =
      ((c.dispatch timeout recipient request w).1,
        (c.dispatch timeout recipient request w).2.altered change) := by
  cases refused : dispatchRefusal? recipient request with
  | some refusal =>
    rw [dispatch_of_refused c timeout _ refused, dispatch_of_refused c timeout w refused]
  | none =>
    simp only [dispatch, refused]
    have opens : c.startSteps request.requestId [c.exchangeLabel, recipient.text]
        (w.altered change) =
      ((c.startSteps request.requestId [c.exchangeLabel, recipient.text] w).1,
        (c.startSteps request.requestId [c.exchangeLabel, recipient.text] w).2.altered change) := rfl
    rw [opens]
    dsimp only
    rw [World.send_altered shows elsewhere]
    rfl

theorem broadcast_altered (shows : ShowsOnlyOn id change) (recipients : List RecipientId)
    (payload : Json) (deadline : Nat) (elsewhere : RequestId.generated w.requestCount ≠ id) :
    c.broadcast recipients payload deadline (w.altered change) =
      ((c.broadcast recipients payload deadline w).1,
        (c.broadcast recipients payload deadline w).2.altered change) := by
  cases refused : broadcastRefusal? recipients payload deadline with
  | some refusal => simp only [broadcast, refused]
  | none =>
    rcases started : c.setOut recipients payload deadline w with ⟨f, v⟩
    rcases gathered : f.gather (f.slots.length + 1) v with ⟨reports, f', v'⟩
    have own : (w.newRequest payload).1.requestId ≠ id := elsewhere
    obtain ⟨begins, clear⟩ := FanOut.start_altered shows c (distinct recipients) own deadline
      (w.newRequest payload).2
    rw [← setOut_eq c recipients payload deadline w, started] at begins clear
    have again : c.setOut recipients payload deadline (w.altered change) =
        (f, v.altered change) := begins
    have gathers := FanOut.gather_altered shows (f.slots.length + 1) clear v
    rw [gathered] at gathers
    rw [broadcast_eq c w refused started gathered, broadcast_eq c _ refused again gathers,
      FanOut.finish_altered]

theorem relay_altered (shows : ShowsOnlyOn id change) (seeds : List RecipientId) (payload : Json)
    (marker : String) (deadline : Nat) (elsewhere : RequestId.generated w.requestCount ≠ id) :
    c.relay seeds payload marker deadline (w.altered change) =
      ((c.relay seeds payload marker deadline w).1,
        (c.relay seeds payload marker deadline w).2.altered change) := by
  cases refused : relayRefusal? seeds payload marker deadline with
  | some refusal => rw [relay_of_refused c refused, relay_of_refused c refused]
  | none =>
    have own : (w.newRequest payload).1.requestId ≠ id := elsewhere
    obtain ⟨connects, clear⟩ := World.connect_altered shows own
      (c.topic "relay" (RequestId.generated w.requestCount)) seeds
      (c.startSteps (RequestId.generated w.requestCount) [c.label] (w.newRequest payload).2).2
    rcases seeded : c.seed seeds payload w with ⟨connected, step, v⟩
    have again : c.seed seeds payload (w.altered change) = (connected, step, v.altered change) := by
      cases seeded
      exact congrArg (fun o : Except World.ConnectFault Channel × World => (o.1, _, o.2)) connects
    have clear : ∀ ch, connected = .ok ch → ch.Clear id := by
      cases seeded
      exact clear
    cases connected with
    | error fault =>
      rw [c.relay_of_fault refused seeded, c.relay_of_fault refused again]
      rfl
    | ok ch =>
      have reads := Watch.readOn_altered shows (ch.allowance v.patience) (clear ch rfl)
        (c.watch payload marker deadline w v.wallClock.1 []) v.wallClock.2
      rcases watched : Watch.readOn (ch.allowance v.patience) ch
        (c.watch payload marker deadline w v.wallClock.1 []) v.wallClock.2 with ⟨ch', s, u⟩
      rw [watched] at reads
      rw [c.relay_of_channel refused seeded watched, c.relay_of_channel refused again reads,
        World.release_altered]
      rfl

end Coordinator

end RollCall
