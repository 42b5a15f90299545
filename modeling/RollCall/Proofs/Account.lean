import RollCall.Proofs.Exchange
import RollCall.Proofs.Relay
import RollCall.Proofs.Standing

set_option autoImplicit false

/-!
What is stored of a call whose store may fail at any of its operations. A trace may lack steps, or
hold open ones that should be closed, but it never says anything that the result does not say.
-/
namespace RollCall

structure Step.Claims (participant : String) (due : Option Bool) (s : Step) : Prop where
  participant : s.participant = participant
  closed : s.isOpen = s.success.isNone
  told : ∀ b, s.success = some b → due = some b

theorem Step.Answers.claims {may : Prop} {participant : String} {due : Option Bool} {s s' : Step}
    (answers : s.Answers may due s') (claims : s.Claims participant none) :
    s'.Claims participant due := by
  have unclosed : s.success = none := by
    cases success : s.success with
    | none => rfl
    | some b => exact absurd (claims.told b success) (by simp)
  have isOpen : s.isOpen = true := by
    rw [claims.closed, unclosed]
    rfl
  refine ⟨answers.participant.trans claims.participant, ?_, answers.told unclosed⟩
  rcases answers.eq_or with rfl | ⟨now, b, rfl⟩
  · exact claims.closed
  · rw [Step.isOpen_close, Step.close, if_pos isOpen]
    rfl

namespace BroadcastOutcome

/-- The step of a recipient says nothing that the outcome does not say. -/
structure Allows (o : BroadcastOutcome) (q : RecipientId) (s : Step) : Prop where
  participant : s.participant = q.text
  closed : s.isOpen = s.success.isNone
  succeeded : s.success = some true → q ∈ o.succeeded.keys
  failed : s.success = some false → q ∈ o.failed.keys
  missing : q ∈ o.missing.keys → s.isOpen = true

/-- Steps that say nothing that the outcome does not say: none, or one for everybody. -/
inductive Accounts (o : BroadcastOutcome) (label : String) (rs : List RecipientId) :
    List Step → Prop
  | nothing : Accounts o label rs []
  | recorded {s : Step} {steps : List Step} (coordinator : s.Claims label (some o.isComplete))
    (recipients : List.Forall₂ o.Allows (distinct rs) steps) : Accounts o label rs (s :: steps)

theorem allows_of_follows {may : Prop} {o : BroadcastOutcome} {q : RecipientId} {due : Option Bool}
    {s : Step} {now : Timestamp} (follows : Follows may o q due s) (proper : s.Proper now) :
    o.Allows q s := by
  refine ⟨follows.participant, proper.isOpen, ?_, ?_, ?_⟩
  · intro success
    exact follows.succeeded.1 (follows.tells.told true success)
  · intro success
    exact follows.failed.1 (follows.tells.told false success)
  · intro missing
    have nothing := follows.missing.2 missing
    rw [proper.isOpen]
    cases success : s.success with
    | none => rfl
    | some b =>
      rw [follows.tells.told b success] at nothing
      cases nothing

theorem accounts_of_followed {may : Prop} {o : BroadcastOutcome} {label : String}
    {rs : List RecipientId} {steps : List Step} {now : Timestamp}
    (followed : o.Followed may label (distinct rs) steps) (proper : ∀ s ∈ steps, s.Proper now) :
    o.Accounts label rs steps := by
  cases followed with
  | nothing lost => exact .nothing
  | recorded named tells recipients =>
    refine .recorded ⟨named, (proper _ List.mem_cons_self).isOpen, tells.told⟩ ?_
    refine (forall₂_and_right recipients fun t member =>
      proper t (List.mem_cons_of_mem _ member)).imp ?_
    intro q t both
    obtain ⟨⟨due, follows⟩, proper⟩ := both
    exact allows_of_follows follows proper

end BroadcastOutcome

namespace Coordinator

/-- What may be stored of an exchange: nothing, or both of its steps, both open or both closed. -/
inductive ExchangeAccounts (c : Coordinator) (recipient : RecipientId) (success : Bool) :
    List Step → Prop
  | nothing : ExchangeAccounts c recipient success []
  | «open» {s t : Step} (own : s.participant = c.exchangeLabel)
    (other : t.participant = recipient.text) (ours : s.isOpen = true) (theirs : t.isOpen = true) :
    ExchangeAccounts c recipient success [s, t]
  | closed {s t : Step} (own : s.participant = c.exchangeLabel)
    (other : t.participant = recipient.text) (ours : s.isOpen = false ∧ s.success = some success)
    (theirs : t.isOpen = false ∧ t.success = some success) :
    ExchangeAccounts c recipient success [s, t]

variable {c : Coordinator} {Sound : Journal → Prop}

/-- Closing the steps of an exchange, which are all that is stored of its request. -/
theorem accounts_endSteps (retains : c.recorder.Retains Sound) {id : RequestId} {j : Journal}
    (sound : Sound j) (orderly : j.Orderly id) {recipient : RecipientId} (success : Bool)
    (participants : (j.steps id).map Step.participant = [c.exchangeLabel, recipient.text])
    (unclosed : ∀ s ∈ j.steps id, s.success = none) :
    c.ExchangeAccounts recipient success ((c.recorder.endSteps id
      (((j.steps id).map fun s => some s.stepId).reverse.map fun s => (s, success)) j).steps id) := by
  have performed := Recorder.perform_spec retains sound orderly.named orderly.once
    (.close (((j.steps id).map fun s => some s.stepId).reverse.map fun s => (s, success)))
  have proper := orderly.proper
  obtain ⟨s, t, two⟩ : ∃ s t, j.steps id = [s, t] := by
    refine List.length_eq_two.1 ?_
    rw [← List.length_map, participants]
    rfl
  unfold Recorder.endSteps
  rw [two] at participants unclosed proper performed ⊢
  obtain ⟨own, other⟩ : s.participant = c.exchangeLabel ∧ t.participant = recipient.text := by
    simpa using participants
  have unclosedOurs := unclosed s (by simp)
  have unclosedTheirs := unclosed t (by simp)
  have properOurs := proper s (by simp)
  have properTheirs := proper t (by simp)
  rcases performed.outcome with dropped | done
  · rw [Journal.steps_congr dropped.held, two]
    exact .open own other (by rw [properOurs.isOpen, unclosedOurs]; rfl)
      (by rw [properTheirs.isOpen, unclosedTheirs]; rfl)
  · obtain ⟨kept, steps, heeds⟩ := done.steps
    rw [two] at heeds
    cases heeds with
    | @cons _ s' _ _ heedsOurs rest =>
      cases rest with
      | @cons _ t' _ _ heedsTheirs rest =>
        cases rest
        have named (u : Step) (listed : u = s ∨ u = t) : Recorder.closing? (Recording.closes
            (.close (([s, t].map fun s => some s.stepId).reverse.map fun s => (s, success)))) u.stepId =
              some success := by
          show Recorder.closing? [(some t.stepId, success), (some s.stepId, success)] u.stepId = _
          rw [Recorder.closing?_cons_some, Recorder.closing?_cons_some]
          rcases listed with rfl | rfl <;> simp
        rw [Step.Heeds, named s (Or.inl rfl)] at heedsOurs
        rw [Step.Heeds, named t (Or.inr rfl)] at heedsTheirs
        obtain ⟨m, -, -, rfl⟩ := heedsOurs
        obtain ⟨n, -, -, rfl⟩ := heedsTheirs
        rw [steps]
        exact .closed ((Step.participant_close _ _ _).trans own)
          ((Step.participant_close _ _ _).trans other)
          ⟨Step.isOpen_close _ _ _, properOurs.success_close unclosedOurs _ _⟩
          ⟨Step.isOpen_close _ _ _, properTheirs.success_close unclosedTheirs _ _⟩

/-- Where no trace is held there is nothing to close. -/
theorem steps_endSteps_of_none {r : Recorder} (retains : r.Retains Sound) {id : RequestId}
    {j : Journal} (sound : Sound j) (nothing : j.held id = none)
    (closes : List (Option StepId × Bool)) : (r.endSteps id closes j).steps id = [] := by
  have orderly := Journal.orderly_of_none nothing
  have performed := Recorder.perform_spec retains sound orderly.named orderly.once (.close closes)
  unfold Recorder.endSteps
  rcases performed.outcome with dropped | done
  · exact Journal.steps_of_none (dropped.held.trans nothing)
  · obtain ⟨kept, steps, heeds⟩ := done.steps
    rw [Journal.steps_of_none nothing, List.forall₂_nil_left_iff] at heeds
    rw [steps, heeds]
    rfl

theorem dispatch_accounts (retains : c.recorder.Retains Sound) (timeout : Span)
    (recipient : RecipientId) (request : Request) {w : World} (sound : Sound w.journal)
    (forward : w.clock.Forward) (fresh : w.journal.held request.requestId = none)
    (few : w.journal.stepCount + 2 ≤ twoTo 128) :
    c.ExchangeAccounts recipient (c.dispatch timeout recipient request w).1.isOk
      ((c.dispatch timeout recipient request w).2.journal.steps request.requestId) := by
  cases refused : dispatchRefusal? recipient request with
  | some refusal =>
    rw [c.dispatch_of_refused timeout w refused, Journal.steps_of_none fresh]
    exact .nothing
  | none =>
    have opens := Recorder.opens_startSteps retains sound forward fresh
      [c.exchangeLabel, recipient.text]
      (Nat.le_trans (Recorder.stepCount_startSteps_le retains sound fresh _) few)
    have opened : c.startSteps request.requestId [c.exchangeLabel, recipient.text] w =
      ((c.recorder.startSteps request.requestId [c.exchangeLabel, recipient.text] w.journal).1,
        { w with journal := (c.recorder.startSteps request.requestId
          [c.exchangeLabel, recipient.text] w.journal).2 }) := rfl
    simp only [dispatch, refused, opened]
    generalize c.recorder.startSteps request.requestId [c.exchangeLabel, recipient.text] w.journal =
      a at opens
    obtain ⟨answer, j⟩ := a
    dsimp only at opens ⊢
    have elapses := World.elapses_send recipient request
      (({ w with journal := j } : World).now + timeout.millis) { w with journal := j }
    generalize World.send recipient request _ { w with journal := j } = sent at elapses ⊢
    obtain ⟨reply, v⟩ := sent
    dsimp only at elapses ⊢
    generalize (exchangeResult recipient timeout reply).isOk = success
    have spares := elapses.spares retains opens.sound request.requestId
    have sound := spares.sound opens.sound
    rcases opens.outcome with ⟨nothing, -, -⟩ | ⟨participants, answered, unclosed, -⟩
    · have empty := steps_endSteps_of_none retains sound (spares.held.trans nothing)
        (answer.reverse.map fun s => (s, success))
      exact empty ▸ .nothing
    · have steps := Journal.steps_congr spares.held
      rw [← steps] at participants answered unclosed
      have orderly := opens.orderly.carry spares.held spares.counted
        (forward.onward opens.onward) spares.onward
      have accounts := accounts_endSteps retains sound orderly success participants unclosed
      rw [← answered] at accounts
      exact accounts

end Coordinator

structure Reply.Leaves (h : Reply) (s : Step) : Prop where
  participant : s.participant = h.sender.text
  closed : s.isOpen = false
  success : s.success = some !h.body.isRejected

/--
What may be stored of a relay: the coordinator's step or nothing, and then closed steps for some of
the messages seen, in their order.
-/
inductive RelayAccounts (label : String) (due : Option Bool) (observed : List Reply) :
    List Step → Prop
  | mk {coordinator hops : List Step} {seen : List Reply} (short : coordinator.length ≤ 1)
    (own : ∀ s ∈ coordinator, s.Claims label due)
    (order : seen.Sublist observed) (each : List.Forall₂ Reply.Leaves seen hops) :
    RelayAccounts label due observed (coordinator ++ hops)

namespace RelayAccounts

variable {label : String} {due : Option Bool} {observed : List Reply} {steps : List Step}

/-- A message may leave no step. -/
theorem lose (accounts : RelayAccounts label due observed steps) (h : Reply) :
    RelayAccounts label due (observed ++ [h]) steps := by
  obtain ⟨short, own, order, each⟩ := accounts
  exact .mk short own (order.trans (List.sublist_append_left observed [h])) each

theorem leave (accounts : RelayAccounts label due observed steps) {h : Reply} {s : Step}
    (leaves : h.Leaves s) : RelayAccounts label due (observed ++ [h]) (steps ++ [s]) := by
  obtain ⟨short, own, order, each⟩ := accounts
  rw [List.append_assoc]
  exact .mk short own (order.append (List.Sublist.refl [h]))
    (List.rel_append each (List.Forall₂.cons leaves List.Forall₂.nil))

/-- The messages' steps are closed already, so that a close can only reach the coordinator's. -/
theorem close {may : Prop} {step : Option StepId} {success : Bool} {after : List Step}
    (accounts : RelayAccounts label none observed steps)
    (answers : List.Forall₂ (fun s s' =>
      Step.Answers may (Recorder.closing? [(step, success)] s.stepId) s s') steps after) :
    RelayAccounts label (some success) observed after := by
  obtain ⟨short, own, order, each⟩ := accounts
  obtain ⟨coordinator, hops, rfl, ours, theirs⟩ := split_of_forall₂_append answers
  rename_i first later seen
  have closed : ∀ s ∈ later, s.isOpen = false := by
    intro s member
    obtain ⟨h, -, leaves⟩ := exists_of_forall₂ each member
    exact leaves.closed
  have same : later = hops := eq_of_forall₂ ((List.forall₂_and_left later hops).2 ⟨closed, theirs⟩)
    fun _ _ both => (both.2.eq_of_closed both.1).symm
  subst same
  refine .mk (ours.length_eq ▸ short) ?_ order each
  intro t member
  obtain ⟨s, listed, answer⟩ := exists_of_forall₂ ours member
  obtain ⟨participant, shut, told⟩ := answer.claims (own s listed)
  refine ⟨participant, shut, ?_⟩
  intro b success
  have due := told b success
  rw [Recorder.closing?_single] at due
  split at due
  · exact due
  · cases due

end RelayAccounts

/-- What is stored of a relay of which so much has been seen. -/
structure RelayChronicle (c : Coordinator) (Sound : Journal → Prop) (id : RequestId)
    (observed : List Reply) (j : Journal) : Prop where
  sound : Sound j
  forward : j.clock.Forward
  orderly : j.Orderly id
  accounts : RelayAccounts c.label none observed (j.steps id)

namespace RelayChronicle

variable {c : Coordinator} {Sound : Journal → Prop} {id : RequestId} {observed : List Reply}
  {j k : Journal}

theorem elapsed (chronicle : RelayChronicle c Sound id observed j)
    (retains : c.recorder.Retains Sound) (elapses : j.Elapses k) :
    RelayChronicle c Sound id observed k := by
  have spares := elapses.spares retains chronicle.sound id
  refine ⟨spares.sound chronicle.sound, chronicle.forward.onward spares.onward,
    chronicle.orderly.carry spares.held spares.counted chronicle.forward spares.onward, ?_⟩
  rw [Journal.steps_congr spares.held]
  exact chronicle.accounts

/-- A message that has been seen leaves its step or nothing. -/
theorem recorded (chronicle : RelayChronicle c Sound id observed j)
    (retains : c.recorder.Retains Sound) (h : Reply) {since : Timestamp}
    (dated : since.inCalendar = true)
    (few : (c.recorder.recordStep id h.sender.text since (!h.body.isRejected) j).2.stepCount ≤
      twoTo 128) :
    RelayChronicle c Sound id (observed ++ [h])
      (c.recorder.recordStep id h.sender.text since (!h.body.isRejected) j).2 := by
  have performed := Recorder.perform_spec retains chronicle.sound chronicle.orderly.named
    chronicle.orderly.once (.finished dated h.sender.text (!h.body.isRejected))
  refine ⟨performed.sound, chronicle.forward.onward performed.onward,
    performed.orderly chronicle.orderly chronicle.forward few, ?_⟩
  unfold Recorder.recordStep
  rcases performed.outcome with dropped | done
  · rw [Journal.steps_congr dropped.held]
    exact chronicle.accounts.lose h
  · rw [done.steps.eq_append rfl]
    exact chronicle.accounts.leave ⟨rfl, rfl, rfl⟩

/-- Once everything has been seen the coordinator's step is closed. -/
theorem concluded (chronicle : RelayChronicle c Sound id observed j)
    (retains : c.recorder.Retains Sound) (named : id.isBlank = false) (step : Option StepId)
    (success : Bool) :
    RelayAccounts c.label (some success) observed
      ((c.recorder.endStep id step success j).steps id) := by
  have performed := Recorder.perform_spec retains chronicle.sound chronicle.orderly.named
    chronicle.orderly.once (.close [(step, success)])
  exact chronicle.accounts.close (performed.answers named)

end RelayChronicle

theorem Recorder.stepCount_le_perform (r : Recorder) (id : RequestId) (a : Recording) (j : Journal) :
    j.stepCount ≤ (r.perform id a j).2.stepCount := by
  refine Nat.le_trans (stepCount_le_draft r id a j) (Nat.le_of_eq ?_)
  exact (stepCount_commit r _ _).symm

namespace Watch

variable {c : Coordinator} {Sound : Journal → Prop} {s : Watch} {w : World}

theorem stepCount_le_see (s : Watch) (m : Reply) (w : World) :
    w.journal.stepCount ≤ (s.see m w).2.journal.stepCount :=
  Recorder.stepCount_le_perform s.coordinator.recorder s.requestId
    (.finished m.sender.text s.since (!m.body.isRejected)) w.journal

theorem stepCount_le_readOn (allowance : Nat) (ch : Channel) (s : Watch) (w : World) :
    w.journal.stepCount ≤ (readOn allowance ch s w).2.2.journal.stepCount := by
  induction allowance generalizing ch s w with
  | zero => exact Nat.le_refl _
  | succ allowance ih =>
    have counted := (World.elapses_receive ch s.deadline w).counted
    rw [readOn]
    split
    · exact Nat.le_refl _
    · generalize w.receive ch s.deadline = a at counted ⊢
      obtain ⟨reading, ch', w'⟩ := a
      have waited : w.journal.stepCount ≤ w'.journal.stepCount := Nat.le_of_eq counted.symm
      cases reading with
      | cutOff => exact waited
      | failed e => exact waited
      | nothing => exact Nat.le_trans waited (ih ch' s w')
      | message m =>
        have seen := Nat.le_trans waited (stepCount_le_see s m w')
        dsimp only
        split
        · exact seen
        · exact Nat.le_trans seen (ih ch' _ _)

/-- What is seen is recorded while time is taken for it. -/
theorem see_chronicle (retains : c.recorder.Retains Sound) (own : s.coordinator = c)
    (chronicle : RelayChronicle c Sound s.requestId s.hops w.journal)
    (dated : s.since.inCalendar = true) (m : Reply)
    (few : (s.see m w).2.journal.stepCount ≤ twoTo 128) :
    RelayChronicle c Sound s.requestId (s.see m w).1.hops (s.see m w).2.journal ∧
      (s.see m w).1.since.inCalendar = true := by
  subst own
  have recorded := chronicle.recorded retains m dated few
  exact ⟨recorded.elapsed retains ⟨rfl, Clock.onward_tick _, rfl⟩, retains.known recorded.sound _⟩

/-- However long a relay reads, what is stored accounts for what it has seen. -/
theorem readOn_chronicle (retains : c.recorder.Retains Sound) (allowance : Nat) (ch : Channel)
    (own : s.coordinator = c) (chronicle : RelayChronicle c Sound s.requestId s.hops w.journal)
    (dated : s.since.inCalendar = true)
    (few : (readOn allowance ch s w).2.2.journal.stepCount ≤ twoTo 128) :
    (readOn allowance ch s w).2.1.requestId = s.requestId ∧
      RelayChronicle c Sound s.requestId (readOn allowance ch s w).2.1.hops
        (readOn allowance ch s w).2.2.journal := by
  induction allowance generalizing ch s w with
  | zero => exact ⟨rfl, chronicle⟩
  | succ allowance ih =>
    have elapses := World.elapses_receive ch s.deadline w
    rw [readOn] at few ⊢
    split
    · exact ⟨rfl, chronicle⟩
    · rename_i early
      rw [if_neg early] at few
      generalize w.receive ch s.deadline = a at elapses few ⊢
      obtain ⟨reading, ch', w'⟩ := a
      have waited := chronicle.elapsed retains elapses
      cases reading with
      | cutOff => exact ⟨rfl, waited⟩
      | failed e => exact ⟨rfl, waited⟩
      | nothing => exact ih ch' own waited dated few
      | message m =>
        dsimp only at few waited ⊢
        have counted : (s.see m w').2.journal.stepCount ≤ twoTo 128 := by
          refine Nat.le_trans ?_ few
          split
          · exact Nat.le_refl _
          · exact stepCount_le_readOn _ _ _ _
        obtain ⟨seen, datedLater⟩ := see_chronicle retains own waited dated m counted
        split
        · exact ⟨rfl, seen⟩
        · rename_i unfinished
          rw [if_neg unfinished] at few
          exact ih (s := (s.see m w').1) ch' own seen datedLater few

end Watch

namespace Coordinator

variable {c : Coordinator} {Sound : Journal → Prop} {seeds : List RecipientId} {payload : Json}
  {marker : String} {deadline : Nat}

/-- A relay sets out with its own step stored, or with nothing. -/
theorem seed_chronicle (seeds : List RecipientId) (payload : Json)
    (retains : c.recorder.Retains Sound) {w : World} (sound : Sound w.journal)
    (forward : w.clock.Forward)
    (fresh : w.journal.held (RequestId.generated w.requestCount) = none)
    (few : (c.seed seeds payload w).2.2.journal.stepCount ≤ twoTo 128) :
    RelayChronicle c Sound (RequestId.generated w.requestCount) []
      (c.seed seeds payload w).2.2.journal := by
  have elapses := World.elapses_connect (c.topic "relay" (RequestId.generated w.requestCount)) seeds
    (w.newRequest payload).1
    (c.startSteps (RequestId.generated w.requestCount) [c.label] (w.newRequest payload).2).2
  have opens := Recorder.opens_startSteps retains sound forward fresh [c.label]
    (Nat.le_trans (Nat.le_of_eq elapses.counted.symm) few)
  have begun : RelayChronicle c Sound (RequestId.generated w.requestCount) []
      (c.startSteps (RequestId.generated w.requestCount) [c.label]
        (w.newRequest payload).2).2.journal := by
    refine ⟨opens.sound, forward.onward opens.onward, opens.orderly, ?_⟩
    have proper := opens.orderly.proper
    rcases opens.outcome with ⟨nothing, -, -⟩ | ⟨participants, -, unclosed, -⟩
    · have empty := Journal.steps_of_none nothing
      have accounts : RelayAccounts c.label none [] ([] ++ []) :=
        .mk (Nat.zero_le 1) (by simp) (List.Sublist.refl []) List.Forall₂.nil
      exact empty ▸ accounts
    · obtain ⟨s, single, named⟩ := List.map_eq_singleton_iff.1 participants
      rw [single] at proper unclosed
      have claims : s.Claims c.label none := by
        refine ⟨named, (proper s List.mem_cons_self).isOpen, ?_⟩
        intro b success
        rw [unclosed s List.mem_cons_self] at success
        cases success
      have accounts : RelayAccounts c.label none [] ([s] ++ []) :=
        .mk (Nat.le_refl 1) (by simpa using claims) (List.Sublist.refl []) List.Forall₂.nil
      exact single ▸ accounts
  exact begun.elapsed retains elapses

/-- A relay under a fresh request leaves steps that its result accounts for. -/
theorem relay_accounts (retains : c.recorder.Retains Sound)
    (accepted : relayRefusal? seeds payload marker deadline = none) {w : World}
    (sound : Sound w.journal) (forward : w.clock.Forward)
    (fresh : w.journal.held (RequestId.generated w.requestCount) = none)
    (few : (c.relay seeds payload marker deadline w).2.journal.stepCount ≤ twoTo 128) :
    ∃ result w', c.relay seeds payload marker deadline w = (.ok result, w') ∧
      RelayAccounts c.label (some !result.timedOut) result.observedHops
        (w'.journal.steps result.requestId) := by
  have named := RequestId.isBlank_generated w.requestCount
  have begun := seed_chronicle seeds payload retains sound forward fresh
  rcases seeded : c.seed seeds payload w with ⟨connected, step, v⟩
  rw [seeded] at begun
  cases connected with
  | error fault =>
    have whole := c.relay_of_fault accepted seeded
    rw [whole] at few
    have started := begun (Nat.le_trans (Recorder.stepCount_le_perform _ _ _ _) few)
    exact ⟨_, _, whole, started.concluded retains named step false⟩
  | ok ch =>
    rcases watched : Watch.readOn (ch.allowance v.patience) ch
      (c.watch payload marker deadline w v.wallClock.1 []) v.wallClock.2 with ⟨ch', s, u⟩
    have whole := c.relay_of_channel accepted seeded watched
    have counted := Watch.stepCount_le_readOn (ch.allowance v.patience) ch
      (c.watch payload marker deadline w v.wallClock.1 []) v.wallClock.2
    rw [watched] at counted
    rw [whole] at few
    have fewRead : u.journal.stepCount ≤ twoTo 128 :=
      Nat.le_trans (Recorder.stepCount_le_perform c.recorder _ _ u.journal) few
    have seeded := begun (Nat.le_trans counted fewRead)
    have started := seeded.elapsed retains v.elapses_wallClock
    have seen := Watch.readOn_chronicle (s := c.watch payload marker deadline w v.wallClock.1 [])
      retains (ch.allowance v.patience) ch rfl started (retains.known seeded.sound _)
      (by rw [watched]; exact fewRead)
    rw [watched] at seen
    obtain ⟨same, seen⟩ := seen
    refine ⟨_, _, whole, ?_⟩
    have success : s.terminal.isSome = !(s.result ((u.release ch').now - w.now)).timedOut := by
      rw [Watch.result, Option.not_isNone]
    rw [← success, Watch.result, same]
    exact seen.concluded retains named step s.terminal.isSome

/--
What a store holds of a call's fresh request after the call says nothing but what the call's result
says, whichever of the store's operations fail and however long they take.
-/
theorem calls_accounted (retains : c.recorder.Retains Sound) {w : World} (sound : Sound w.journal)
    (forward : w.clock.Forward) :
    (∀ recipients payload deadline, broadcastRefusal? recipients payload deadline = none →
      w.journal.held (RequestId.generated w.requestCount) = none →
      w.journal.stepCount + ((distinct recipients).length + 1) ≤ twoTo 128 →
      ∃ o w', c.broadcast recipients payload deadline w = (.ok o, w') ∧
        o.Accounts c.label recipients (w'.journal.steps o.requestId)) ∧
    (∀ timeout recipient request, w.journal.held request.requestId = none →
      w.journal.stepCount + 2 ≤ twoTo 128 →
      c.ExchangeAccounts recipient (c.dispatch timeout recipient request w).1.isOk
        ((c.dispatch timeout recipient request w).2.journal.steps request.requestId)) ∧
    ∀ seeds payload marker deadline, relayRefusal? seeds payload marker deadline = none →
      w.journal.held (RequestId.generated w.requestCount) = none →
      (c.relay seeds payload marker deadline w).2.journal.stepCount ≤ twoTo 128 →
      ∃ result w', c.relay seeds payload marker deadline w = (.ok result, w') ∧
        RelayAccounts c.label (some !result.timedOut) result.observedHops
          (w'.journal.steps result.requestId) := by
  refine ⟨?_, ?_, ?_⟩
  · intro recipients payload deadline accepted fresh few
    obtain ⟨o, w', done, concludes⟩ := broadcast_concludes retains accepted sound forward fresh few
    exact ⟨o, w', done,
      BroadcastOutcome.accounts_of_followed concludes.followed concludes.orderly.proper⟩
  · intro timeout recipient request fresh few
    exact dispatch_accounts retains timeout recipient request sound forward fresh few
  · intro seeds payload marker deadline accepted fresh few
    exact relay_accounts retains accepted sound forward fresh few

/--
Stores that refuse to close a step, that are cut off, and that refuse to keep a message's step; the
first of them of either kind.
-/
theorem calls_accounted_rehearsal :
    (∃ o w', rehearsal.broadcast [⟨"a"⟩, ⟨"b"⟩, ⟨"a"⟩, ⟨"c"⟩] (.string "hi") 50
        (World.rehearsal [.proceed, .stall 3, .refuse]) = (.ok o, w') ∧
      o.Accounts "desk" [⟨"a"⟩, ⟨"b"⟩, ⟨"a"⟩, ⟨"c"⟩] (w'.journal.steps o.requestId)) ∧
    rehearsal.ExchangeAccounts ⟨"b"⟩ true ((rehearsal.dispatch (Span.ofMillis 20) ⟨"b"⟩
      ⟨⟨"r"⟩, .string "hi"⟩ (World.exchangeRehearsal [.proceed, .proceed, .stall 9])).2.journal.steps
        ⟨"r"⟩) ∧
    (∃ result w', rehearsal.relay [⟨"a"⟩, ⟨"b"⟩] (.string "hi") "yes" 50
        (World.rehearsal [.proceed, .proceed, .refuseAfter 1]) = (.ok result, w') ∧
      RelayAccounts "desk" (some !result.timedOut) result.observedHops
        (w'.journal.steps result.requestId)) ∧
    ∃ o w', rehearsal.broadcast [⟨"a"⟩, ⟨"b"⟩, ⟨"a"⟩, ⟨"c"⟩] (.string "hi") 50
        (World.durableRehearsal [.proceed, .stall 3, .refuse]) = (.ok o, w') ∧
      o.Accounts "desk" [⟨"a"⟩, ⟨"b"⟩, ⟨"a"⟩, ⟨"c"⟩] (w'.journal.steps o.requestId) := by
  have retains := Recorder.retains_lasting rehearsal.recorder
  obtain ⟨broadcast, -, -⟩ := calls_accounted retains
    (World.lasting_rehearsal [.proceed, .stall 3, .refuse]) (World.forward_rehearsal _)
  obtain ⟨-, dispatch, -⟩ := calls_accounted retains
    (w := World.exchangeRehearsal [.proceed, .proceed, .stall 9])
    (World.lasting_rehearsal _) (World.forward_rehearsal _)
  obtain ⟨-, -, relay⟩ := calls_accounted retains
    (World.lasting_rehearsal [.proceed, .proceed, .refuseAfter 1]) (World.forward_rehearsal _)
  obtain ⟨durable, -, -⟩ := calls_accounted retains
    (World.lasting_durableRehearsal [.proceed, .stall 3, .refuse]) (World.forward_rehearsal [])
  exact ⟨broadcast _ _ _ (by decide) (World.held_rehearsal _ _) (by decide),
    dispatch (Span.ofMillis 20) ⟨"b"⟩ ⟨⟨"r"⟩, .string "hi"⟩ (World.held_rehearsal _ _) (by decide),
    relay _ _ _ _ (by decide) (World.held_rehearsal _ _) (by decide +kernel),
    durable _ _ _ (by decide) (World.held_durableRehearsal _ _) (by decide)⟩

end Coordinator

end RollCall
