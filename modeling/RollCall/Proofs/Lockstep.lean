import RollCall.Broadcast.Stream
import RollCall.Proofs.Alike
import RollCall.Proofs.Partition

set_option autoImplicit false

/-!
Two fan-outs side by side that differ in the steps of their traces only. As long as their channels
give out the same, they note the same reports in the same order; what their stores do has no say.
-/
namespace RollCall

/-- What a slot holds beside the step. -/
def Slot.account (s : Slot) : RecipientId × Option (Except RemoteError String) :=
  (s.recipient, s.report)

namespace FanOut

/-- The same but for the steps. -/
structure Alike (f g : FanOut) : Prop where
  coordinator : g.coordinator = f.coordinator
  requestId : g.requestId = f.requestId
  channel : g.channel = f.channel
  setupFailure : g.setupFailure = f.setupFailure
  deadline : g.deadline = f.deadline
  notes : g.notes = f.notes
  slots : g.slots.map Slot.account = f.slots.map Slot.account

namespace Alike

variable {f g : FanOut}

theorem missing (alike : f.Alike g) : g.missing = f.missing := by
  have byAccount (h : FanOut) : h.missing =
      ((h.slots.map Slot.account).filter fun a => a.2.isNone).map Prod.fst := by
    rw [List.filter_map, List.map_map]
    rfl
  rw [byAccount g, byAccount f, alike.slots]

theorem anyFailed (alike : f.Alike g) : g.anyFailed = f.anyFailed := by
  have byAccount (h : FanOut) : h.anyFailed =
      (h.slots.map Slot.account).any fun a => a.2.any fun r => !r.isOk := by
    rw [List.any_map]
    rfl
  rw [byAccount g, byAccount f, alike.slots]

theorem firstPending? (alike : f.Alike g) : g.firstPending? = f.firstPending? := by
  rw [firstPending?_eq_head?, firstPending?_eq_head?, alike.missing]

theorem withChannel (alike : f.Alike g) (c : Option Channel) :
    Alike { f with channel := c } { g with channel := c } :=
  ⟨alike.coordinator, alike.requestId, rfl, alike.setupFailure, alike.deadline, alike.notes,
    alike.slots⟩

theorem filled (alike : f.Alike g) (r : RecipientId) (result : Except RemoteError String) :
    Alike { f with slots := fill r result f.slots } { g with slots := fill r result g.slots } := by
  have account (slots : List Slot) : (fill r result slots).map Slot.account =
      (slots.map Slot.account).map fun a => if a.1 = r then (a.1, some result) else a := by
    rw [fill, List.map_map, List.map_map]
    apply List.map_congr_left
    intro s _
    by_cases same : s.recipient = r
    · simp [Slot.account, same]
    · simp [Slot.account, same]
  refine ⟨alike.coordinator, alike.requestId, alike.channel, alike.setupFailure, alike.deadline,
    alike.notes, ?_⟩
  rw [account, account, alike.slots]

end Alike

end FanOut

/-- Two worlds that keep giving the same to a fan-out until an instant. -/
structure World.Lockstep (c : Coordinator) (limit : Nat) (Held : Channel → Prop)
    (Beside : World → World → Prop) : Prop where
  patience : ∀ {w v}, Beside w v → v.patience = w.patience
  early : ∀ {w v}, Beside w v → w.now < limit → v.now < limit
  receive : ∀ {w v}, Beside w v → w.now < limit → ∀ {ch}, Held ch →
    (v.receive ch limit).1 = (w.receive ch limit).1 ∧
      (v.receive ch limit).2.1 = (w.receive ch limit).2.1 ∧
      Held (w.receive ch limit).2.1 ∧
      Beside (w.receive ch limit).2.2 (v.receive ch limit).2.2 ∧
      (limit ≤ (w.receive ch limit).2.2.now → limit ≤ (v.receive ch limit).2.2.now)
  endStep : ∀ {w v}, Beside w v → ∀ id step step' success,
    Beside (c.endStep id step success w) (c.endStep id step' success v)
  release : ∀ {w v}, Beside w v → ∀ ch, Beside (w.release ch) (v.release ch)

namespace FanOut

/-- Two fan-outs with their worlds, so far in step. -/
structure Abreast (c : Coordinator) (limit : Nat) (Held : Channel → Prop)
    (Beside : World → World → Prop) (f : FanOut) (w : World) (g : FanOut) (v : World) : Prop where
  alike : f.Alike g
  beside : Beside w v
  held : ∀ ch, f.channel = some ch → Held ch
  coordinator : f.coordinator = c
  deadline : f.deadline = limit

variable {c : Coordinator} {limit : Nat} {Held : Channel → Prop} {Beside : World → World → Prop}
  {f g : FanOut} {w v : World}

theorem Abreast.resolved (abreast : Abreast c limit Held Beside f w g v)
    (lockstep : World.Lockstep c limit Held Beside) (r : RecipientId)
    (step step' : Option StepId) (result : Except RemoteError String) :
    (g.resolve r step' result v).1 = (f.resolve r step result w).1 ∧
      Abreast c limit Held Beside (f.resolve r step result w).2.1 (f.resolve r step result w).2.2
        (g.resolve r step' result v).2.1 (g.resolve r step' result v).2.2 := by
  have closed := lockstep.endStep abreast.beside f.requestId step step' result.isOk
  refine ⟨rfl, abreast.alike.filled r result, ?_, abreast.held, abreast.coordinator,
    abreast.deadline⟩
  simp only [resolve]
  rw [abreast.alike.coordinator, abreast.alike.requestId, abreast.coordinator]
  exact closed

theorem Abreast.released (abreast : Abreast c limit Held Beside f w g v)
    (lockstep : World.Lockstep c limit Held Beside) :
    Abreast c limit Held Beside (f.releaseChannel w).1 (f.releaseChannel w).2
      (g.releaseChannel v).1 (g.releaseChannel v).2 := by
  unfold releaseChannel
  rw [abreast.alike.channel]
  cases channel : f.channel with
  | none => exact abreast
  | some ch =>
    refine ⟨abreast.alike.withChannel none, lockstep.release abreast.beside ch, ?_,
      abreast.coordinator, abreast.deadline⟩
    intro other held
    cases held

theorem Abreast.heeded (abreast : Abreast c limit Held Beside f w g v)
    (lockstep : World.Lockstep c limit Held Beside) (reading : Reading) :
    (g.heed reading v).1 = (f.heed reading w).1 ∧
      Abreast c limit Held Beside (f.heed reading w).2.1 (f.heed reading w).2.2
        (g.heed reading v).2.1 (g.heed reading v).2.2 := by
  cases reading with
  | cutOff => exact ⟨rfl, abreast⟩
  | nothing => exact ⟨rfl, abreast⟩
  | failed e =>
    have alike := abreast.alike
    have noted : Abreast c limit Held Beside { f with notes := f.notes ++ [brokenNote e] } w
        { g with notes := g.notes ++ [brokenNote e] } v :=
      ⟨⟨alike.coordinator, alike.requestId, alike.channel, alike.setupFailure, alike.deadline,
        congrArg (· ++ [brokenNote e]) alike.notes, alike.slots⟩, abreast.beside, abreast.held,
        abreast.coordinator, abreast.deadline⟩
    exact ⟨rfl, noted.released lockstep⟩
  | message m =>
    cases known : f.pendingStep? m.sender with
    | none =>
      have unknown : g.pendingStep? m.sender = none := by
        rw [pendingStep?_eq_none_iff, abreast.alike.missing]
        exact (f.pendingStep?_eq_none_iff m.sender).1 known
      simp only [heed, known, unknown]
      exact ⟨trivial, abreast⟩
    | some step =>
      have owed : g.pendingStep? m.sender ≠ none := by
        rw [Ne, pendingStep?_eq_none_iff, abreast.alike.missing, not_not]
        exact mem_missing_of_pendingStep? known
      obtain ⟨step', known'⟩ := Option.ne_none_iff_exists'.1 owed
      obtain ⟨report, resolved⟩ := abreast.resolved lockstep m.sender step step' m.body.classify
      simp only [heed, known, known']
      exact ⟨congrArg Progress.reported report, resolved⟩

theorem Abreast.over_iff (abreast : Abreast c limit Held Beside f w g v) (early : w.now < limit)
    (lockstep : World.Lockstep c limit Held Beside) : g.Over v ↔ f.Over w := by
  have notLate : ¬ limit ≤ w.now := Nat.not_le_of_lt early
  have notLate' : ¬ limit ≤ v.now := Nat.not_le_of_lt (lockstep.early abreast.beside early)
  simp only [Over, abreast.alike.missing, abreast.alike.channel, abreast.alike.deadline,
    abreast.deadline, notLate, notLate']

theorem world_heed_of_ignored {reading : Reading} (ignored : (f.heed reading w).1 = .ignored) :
    (f.heed reading w).2.2 = w := by
  cases reading with
  | cutOff => rfl
  | nothing => rfl
  | failed e => cases ignored
  | message m =>
    cases known : f.pendingStep? m.sender with
    | none => simp only [heed, known]
    | some step =>
      simp only [heed, known] at ignored
      cases ignored

/-- One look at the channel before the deadline; if it brings nothing both are late or neither
is. -/
theorem Abreast.readOnce (abreast : Abreast c limit Held Beside f w g v) (early : w.now < limit)
    (setup : f.setupFailure = none) (lockstep : World.Lockstep c limit Held Beside) :
    (g.readOnce v).1 = (f.readOnce w).1 ∧
      Abreast c limit Held Beside (f.readOnce w).2.1 (f.readOnce w).2.2 (g.readOnce v).2.1
        (g.readOnce v).2.2 ∧
      ((f.readOnce w).1 = .ignored → limit ≤ (f.readOnce w).2.2.now →
        limit ≤ (g.readOnce v).2.2.now) := by
  by_cases ended : f.Over w
  · rw [readOnce_of_over ended, readOnce_of_over ((abreast.over_iff early lockstep).2 ended)]
    refine ⟨rfl, abreast, ?_⟩
    intro ignored
    cases ignored
  · obtain ⟨ch, awaits⟩ := awaits_of_not_over setup ended
    have awaits' : g.Awaits v ch := by
      refine ⟨abreast.alike.setupFailure.trans setup, abreast.alike.channel.trans awaits.channel,
        ?_, ?_⟩
      · rw [abreast.alike.missing]
        exact awaits.pending
      · rw [abreast.alike.deadline, abreast.deadline]
        exact lockstep.early abreast.beside early
    obtain ⟨reading, channel, held, beside, late⟩ :=
      lockstep.receive abreast.beside early (abreast.held ch awaits.channel)
    have received : Abreast c limit Held Beside
        { f with channel := some (w.receive ch limit).2.1 } (w.receive ch limit).2.2
        { g with channel := some (w.receive ch limit).2.1 } (v.receive ch limit).2.2 := by
      refine ⟨abreast.alike.withChannel _, beside, ?_, abreast.coordinator, abreast.deadline⟩
      intro other same
      cases same
      exact held
    have atLimit : w.receive ch f.deadline = w.receive ch limit := by
      rw [abreast.deadline]
    have atLimit' : v.receive ch g.deadline = v.receive ch limit := by
      rw [abreast.alike.deadline, abreast.deadline]
    rw [readOnce_of_awaits awaits, readOnce_of_awaits awaits', atLimit, atLimit', reading, channel]
    obtain ⟨progress, still⟩ := received.heeded lockstep (w.receive ch limit).1
    refine ⟨progress, still, ?_⟩
    intro ignored lateBoth
    rw [world_heed_of_ignored ignored] at lateBoth
    rw [world_heed_of_ignored (progress.trans ignored)]
    exact late lateBoth

theorem readOn_of_over (allowance : Nat) (ended : f.Over w) :
    f.readOn allowance w = (none, f, w) := by
  cases allowance with
  | zero => rfl
  | succ allowance => rw [readOn, readOnce_of_over ended]

theorem Abreast.readOn (allowance : Nat) (abreast : Abreast c limit Held Beside f w g v)
    (early : w.now < limit) (setup : f.setupFailure = none)
    (lockstep : World.Lockstep c limit Held Beside) :
    (g.readOn allowance v).1 = (f.readOn allowance w).1 ∧
      Abreast c limit Held Beside (f.readOn allowance w).2.1 (f.readOn allowance w).2.2
        (g.readOn allowance v).2.1 (g.readOn allowance v).2.2 := by
  induction allowance generalizing f w g v with
  | zero => exact ⟨rfl, abreast⟩
  | succ allowance ih =>
    obtain ⟨progress, still, bothLate⟩ := abreast.readOnce early setup lockstep
    obtain ⟨log, once⟩ := readOnce_run f w setup
    have setupLater := once.sameCall.setupFailure.trans setup
    rw [FanOut.readOn, FanOut.readOn]
    generalize f.readOnce w = a at progress still bothLate setupLater ⊢
    generalize g.readOnce v = b at progress still bothLate ⊢
    obtain ⟨seen, f', w'⟩ := a
    obtain ⟨seen', g', v'⟩ := b
    obtain rfl : seen' = seen := progress
    cases seen' with
    | reported r => exact ⟨rfl, still⟩
    | ended => exact ⟨rfl, still⟩
    | ignored =>
      by_cases earlyLater : w'.now < limit
      · exact ih still earlyLater setupLater
      · have late : limit ≤ w'.now := Nat.le_of_not_lt earlyLater
        have ended : f'.Over w' := Or.inr (Or.inl (still.deadline ▸ late))
        have ended' : g'.Over v' := by
          refine Or.inr (Or.inl ?_)
          rw [still.alike.deadline, still.deadline]
          exact bothLate rfl late
        dsimp only
        rw [readOn_of_over allowance ended, readOn_of_over allowance ended']
        exact ⟨rfl, still⟩

/-- The next report, if the request was never on a channel or the deadline has not come. -/
theorem Abreast.next (abreast : Abreast c limit Held Beside f w g v)
    (inTime : f.setupFailure ≠ none ∨ w.now < limit)
    (lockstep : World.Lockstep c limit Held Beside) :
    (g.next v).1 = (f.next w).1 ∧
      Abreast c limit Held Beside (f.next w).2.1 (f.next w).2.2 (g.next v).2.1 (g.next v).2.2 := by
  unfold FanOut.next
  rw [abreast.alike.setupFailure, abreast.alike.firstPending?]
  cases setup : f.setupFailure with
  | some failure =>
    cases f.firstPending? with
    | none => exact ⟨rfl, abreast⟩
    | some r =>
      obtain ⟨report, resolved⟩ := abreast.resolved lockstep r (f.pendingStep? r).join
        (g.pendingStep? r).join (.error ⟨.transportFailure, failure⟩)
      exact ⟨congrArg some report, resolved⟩
  | none =>
    have early : w.now < limit := by
      rcases inTime with failed | early
      · exact absurd setup failed
      · exact early
    have allowance : g.allowance v = f.allowance w := by
      unfold FanOut.allowance
      rw [abreast.alike.channel, lockstep.patience abreast.beside]
    dsimp only
    rw [allowance]
    exact abreast.readOn _ early setup lockstep

/-- When the deadline has come there are no more reports. -/
theorem next_of_late (setup : f.setupFailure = none) (late : f.deadline ≤ w.now) :
    f.next w = (none, f, w) := by
  unfold FanOut.next
  rw [setup]
  exact readOn_of_over _ (Or.inr (Or.inl late))

/-- If both are late together, neither is ahead by a report. -/
theorem Abreast.advance (abreast : Abreast c limit Held Beside f w g v)
    (lockstep : World.Lockstep c limit Held Beside)
    (together : ∀ {w v}, Beside w v → limit ≤ w.now → limit ≤ v.now) :
    (g.next v).1 = (f.next w).1 ∧
      Abreast c limit Held Beside (f.next w).2.1 (f.next w).2.2 (g.next v).2.1 (g.next v).2.2 := by
  by_cases inTime : f.setupFailure ≠ none ∨ w.now < limit
  · exact abreast.next inTime lockstep
  · rw [not_or, not_not, Nat.not_lt] at inTime
    obtain ⟨setup, late⟩ := inTime
    have lateToo := together abreast.beside late
    rw [next_of_late setup (abreast.deadline ▸ late),
      next_of_late (abreast.alike.setupFailure.trans setup)
        ((abreast.alike.deadline.trans abreast.deadline) ▸ lateToo)]
    exact ⟨rfl, abreast⟩

theorem Abreast.gather (count : Nat) (abreast : Abreast c limit Held Beside f w g v)
    (lockstep : World.Lockstep c limit Held Beside)
    (together : ∀ {w v}, Beside w v → limit ≤ w.now → limit ≤ v.now) :
    (g.gather count v).1 = (f.gather count w).1 ∧
      Abreast c limit Held Beside (f.gather count w).2.1 (f.gather count w).2.2
        (g.gather count v).2.1 (g.gather count v).2.2 := by
  induction count generalizing f w g v with
  | zero => exact ⟨rfl, abreast⟩
  | succ count ih =>
    obtain ⟨report, still⟩ := abreast.advance lockstep together
    rw [FanOut.gather, FanOut.gather]
    generalize f.next w = a at report still ⊢
    generalize g.next v = b at report still ⊢
    obtain ⟨r, f', w'⟩ := a
    obtain ⟨r', g', v'⟩ := b
    obtain rfl : r' = r := report
    cases r' with
    | none => exact ⟨rfl, still⟩
    | some r =>
      obtain ⟨reports, last⟩ := ih still
      exact ⟨congrArg (r :: ·) reports, last⟩

/-- At the end both close the coordinator's step in the same way. -/
theorem Abreast.finished (abreast : Abreast c limit Held Beside f w g v)
    (lockstep : World.Lockstep c limit Held Beside) :
    (f.finish w).1.Alike (g.finish v).1 ∧ Beside (f.finish w).2 (g.finish v).2 := by
  have released := abreast.released lockstep
  have alike := released.alike
  have closed := lockstep.endStep released.beside (f.releaseChannel w).1.requestId
    (f.releaseChannel w).1.coordinatorStep (g.releaseChannel v).1.coordinatorStep
    ((f.releaseChannel w).1.missing.isEmpty && !(f.releaseChannel w).1.anyFailed)
  refine ⟨alike, ?_⟩
  simp only [finish]
  rw [alike.coordinator, alike.requestId, alike.missing, alike.anyFailed, released.coordinator]
  exact closed

end FanOut

/-- Two streams under way with their worlds, so far in step. -/
inductive StreamStage.Abreast (c : Coordinator) (limit : Nat) (Held : Channel → Prop)
    (Beside : World → World → Prop) : StreamStage → World → StreamStage → World → Prop
  | running {f g : FanOut} {w v : World} (abreast : FanOut.Abreast c limit Held Beside f w g v) :
      Abreast c limit Held Beside (.running f) w (.running g) v
  | ended {w v : World} (beside : Beside w v) : Abreast c limit Held Beside .ended w .ended v

namespace StreamStage

variable {c : Coordinator} {limit : Nat} {Held : Channel → Prop} {Beside : World → World → Prop}
  {f g : FanOut} {s t : StreamStage} {w v : World}

theorem abreast_nextEvent (abreast : FanOut.Abreast c limit Held Beside f w g v)
    (lockstep : World.Lockstep c limit Held Beside)
    (together : ∀ {w v}, Beside w v → limit ≤ w.now → limit ≤ v.now) :
    (g.nextEvent v).1 = (f.nextEvent w).1 ∧
      Abreast c limit Held Beside (f.nextEvent w).2.1 (f.nextEvent w).2.2 (g.nextEvent v).2.1
        (g.nextEvent v).2.2 := by
  obtain ⟨report, still⟩ := abreast.advance lockstep together
  unfold FanOut.nextEvent
  generalize f.next w = a at report still ⊢
  generalize g.next v = b at report still ⊢
  obtain ⟨r, f', w'⟩ := a
  obtain ⟨r', g', v'⟩ := b
  obtain rfl : r' = r := report
  cases r' with
  | some r => exact ⟨rfl, .running still⟩
  | none =>
    obtain ⟨alike, beside⟩ := still.finished lockstep
    dsimp only
    rw [alike.missing, alike.notes]
    split
    · exact ⟨rfl, .ended beside⟩
    · exact ⟨rfl, .ended beside⟩

/-- However many events are asked for, both tell the same. -/
theorem Abreast.take (count : Nat) (id : RequestId) (abreast : Abreast c limit Held Beside s w t v)
    (lockstep : World.Lockstep c limit Held Beside)
    (together : ∀ {w v}, Beside w v → limit ≤ w.now → limit ≤ v.now) :
    (BroadcastStream.take count ⟨id, t⟩ v).1 = (BroadcastStream.take count ⟨id, s⟩ w).1 ∧
      Beside (BroadcastStream.take count ⟨id, s⟩ w).2.2
        (BroadcastStream.take count ⟨id, t⟩ v).2.2 := by
  induction count generalizing s w t v with
  | zero =>
    cases abreast with
    | running abreast => exact ⟨rfl, abreast.beside⟩
    | ended beside => exact ⟨rfl, beside⟩
  | succ count ih =>
    cases abreast with
    | ended beside => exact ⟨rfl, beside⟩
    | @running f g _ _ abreast =>
      obtain ⟨event, still⟩ := abreast_nextEvent abreast lockstep together
      rw [BroadcastStream.take, BroadcastStream.take]
      simp only [BroadcastStream.next]
      generalize f.nextEvent w = a at event still ⊢
      generalize g.nextEvent v = b at event still ⊢
      obtain ⟨e, s', w'⟩ := a
      obtain ⟨e', t', v'⟩ := b
      obtain rfl : e' = e := event
      obtain ⟨told, beside⟩ := ih still
      cases e' with
      | none =>
        cases still with
        | running later => exact ⟨rfl, later.beside⟩
        | ended later => exact ⟨rfl, later⟩
      | some e => exact ⟨congrArg (e :: ·) told, beside⟩

end StreamStage

namespace FanOut

/-- Fan-outs that set out alike differ in the steps that their stores gave them. -/
theorem alike_start (c : Coordinator) (rs : List RecipientId) (request : Request) (wait : Nat)
    {w v : World} (alike : w.Alike v) :
    (start c rs request wait w).1.Alike (start c rs request wait v).1 := by
  obtain ⟨connected, -⟩ := alike.connect (c.topic "broadcast" request.requestId) rs request
  have accounts (u : World) : (start c rs request wait u).1.slots.map Slot.account =
      rs.map fun r => (r, none) := by
    have listed := recipients_start c rs request wait u
    have silent : (start c rs request wait u).1.slots.map Slot.account =
        ((start c rs request wait u).1.slots.map Slot.recipient).map fun r => (r, none) := by
      simp only [start, List.map_map]
      rfl
    rw [silent, listed]
  refine ⟨rfl, rfl, ?_, ?_, ?_, ?_, ?_⟩
  · simp only [start, connected]
  · simp only [start, connected]
  · simp only [start, alike.now]
  · simp only [start, connected]
  · rw [accounts, accounts]

end FanOut

end RollCall
