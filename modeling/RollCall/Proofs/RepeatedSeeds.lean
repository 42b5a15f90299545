import RollCall.Proofs.Echoes
import RollCall.Proofs.LateRelays
import RollCall.Proofs.Mistakes

set_option autoImplicit false

/-!
Relays to seeds that are listed more than once. A broadcast drops repeated recipients, a relay does
not: each seed is asked as often as it is listed. So among the hops there are echoes, of which the
relay to distinct seeds has none; otherwise the two come to the same.
-/
namespace RollCall

/-- The entries of a list that are listed before, or are known. -/
def repeatedFrom (known : List RecipientId) : List RecipientId → List RecipientId
  | [] => []
  | r :: rest => if r ∈ known then r :: repeatedFrom known rest else repeatedFrom (r :: known) rest

/-- The entries that go when only the first of equal ones is kept. -/
def repeated (rs : List RecipientId) : List RecipientId := repeatedFrom [] rs

theorem echoes_repeatedFrom (known rs : List RecipientId) :
    Echoes {r | r ∈ known} ((distinct rs).filter fun r => r ∉ known) (repeatedFrom known rs) rs := by
  induction rs generalizing known with
  | nil => exact .nil _
  | cons r rest ih =>
    rw [repeatedFrom, distinct]
    by_cases listed : r ∈ known
    · rw [if_pos listed, List.filter_cons_of_neg (by simpa using listed), List.filter_filter]
      have same : ((distinct rest).filter fun s => decide (s ∉ known) && !(s == r)) =
          (distinct rest).filter fun s => decide (s ∉ known) := by
        refine List.filter_congr fun s _ => ?_
        by_cases equal : s = r
        · simp [equal, listed]
        · simp [equal]
      rw [same]
      exact .echo listed (ih known)
    · rw [if_neg listed, List.filter_cons_of_pos (by simpa using listed), List.filter_filter]
      have same : ((distinct rest).filter fun s => decide (s ∉ known) && !(s == r)) =
          (distinct rest).filter fun s => decide (s ∉ r :: known) := by
        refine List.filter_congr fun s _ => ?_
        by_cases equal : s = r
        · simp [equal]
        · simp [equal]
      rw [same]
      have later := ih (r :: known)
      have insert : {s | s ∈ r :: known} = insert r {s | s ∈ known} := by
        ext s
        exact List.mem_cons
      rw [insert] at later
      exact .original later

theorem echoes_distinct (rs : List RecipientId) : Echoes ∅ (distinct rs) (repeated rs) rs := by
  rw [repeated]
  simpa using echoes_repeatedFrom [] rs

/-- Entries that differ are all kept. -/
theorem distinct_of_nodup {rs : List RecipientId} (once : rs.Nodup) : distinct rs = rs := by
  induction rs with
  | nil => rfl
  | cons r rest ih =>
    obtain ⟨other, later⟩ := List.nodup_cons.1 once
    rw [distinct, ih later]
    refine congrArg (r :: ·) (List.filter_eq_self.2 fun s member => ?_)
    simp only [Bool.not_eq_true', beq_eq_false_iff_ne]
    rintro rfl
    exact other member

/-- It is no mistake to list somebody more than once. -/
theorem mistaken_distinct_iff {rs : List RecipientId} {payload : Json} {deadline : Nat} :
    Mistaken (distinct rs) payload deadline ↔ Mistaken rs payload deadline := by
  have nobody : distinct rs = [] ↔ rs = [] := by
    simp only [List.eq_nil_iff_forall_not_mem, mem_distinct]
  rw [← not_iff_not, not_mistaken_iff, not_mistaken_iff]
  simp only [ne_eq, nobody, mem_distinct]

theorem relayRefusal?_distinct {seeds : List RecipientId} {payload : Json} {marker : String}
    {deadline : Nat} (accepted : relayRefusal? seeds payload marker deadline = none) :
    relayRefusal? (distinct seeds) payload marker deadline = none := by
  rw [relayRefusal?_eq_none_iff, mistaken_distinct_iff]
  exact relayRefusal?_eq_none_iff.1 accepted

/-- Seeds that a relay takes are recipients that a broadcast takes. -/
theorem broadcastRefusal?_of_relayRefusal? {seeds : List RecipientId} {payload : Json}
    {marker : String} {deadline : Nat}
    (accepted : relayRefusal? seeds payload marker deadline = none) :
    broadcastRefusal? seeds payload deadline = none :=
  broadcastRefusal?_eq_none_iff.2 fun mistaken =>
    relayRefusal?_eq_none_iff.1 accepted (Or.inl mistaken)

/-- A broadcast asks everybody once, however often they are listed. -/
theorem Coordinator.broadcast_distinct (c : Coordinator) {recipients : List RecipientId}
    {payload : Json} {deadline : Nat}
    (accepted : broadcastRefusal? recipients payload deadline = none) (w : World) :
    c.broadcast (distinct recipients) payload deadline w =
      c.broadcast recipients payload deadline w := by
  have acceptedToo : broadcastRefusal? (distinct recipients) payload deadline = none := by
    rw [broadcastRefusal?_eq_none_iff, mistaken_distinct_iff]
    exact broadcastRefusal?_eq_none_iff.1 accepted
  unfold broadcast setOut
  rw [accepted, acceptedToo, distinct_of_nodup (distinct_nodup recipients)]

namespace Hub

variable {registry : Registry} {moment : Moment}

/-- How often a participant is to hear something. -/
def asked (q : RecipientId) (h : Hub) : Nat := h.fresh.countP fun t => t.owner = q

theorem asked_publish (topic : String) (members : List RecipientId) (request : Request)
    {q : RecipientId} {p : Participant} (registered : registry.get? q = some p) :
    ((opened topic members).publish registry moment request).asked q = members.count q := by
  rw [publish_eq _ rfl, asked]
  simp only [started, opened, List.nil_append, List.countP_filterMap, List.count]
  refine List.countP_congr fun r _ => ?_
  by_cases same : r = q
  · simp [same, registered]
  · cases registry.get? r <;> simp [same]

theorem resounds_publish (registry : Registry) (moment : Moment) (topic : String)
    (members : List RecipientId) (request : Request) :
    Resounds registry ∅ ((opened topic (distinct members)).publish registry moment request)
      ((opened topic (repeated members)).publish registry moment request)
      ((opened topic members).publish registry moment request) := by
  rw [publish_eq _ rfl, publish_eq _ rfl, publish_eq _ rfl]
  refine ⟨⟨rfl, rfl, rfl⟩, ⟨.nil ∅, ?_⟩, .nil ∅, fun t old => absurd old (Set.notMem_empty t)⟩
  exact (echoes_distinct members).filterMap _ fun r old => absurd old (Set.notMem_empty r)

end Hub

/-- Among messages of which some hold the marker there is a first one. -/
theorem Message.exists_first {marker : String} {ms : List Message}
    (some : ¬ ∀ m ∈ ms, ¬ m.Holds marker) :
    ∃ before m after, ms = before ++ m :: after ∧ (∀ k ∈ before, ¬ k.Holds marker) ∧
      m.Holds marker := by
  induction ms with
  | nil => simp at some
  | cons m ms ih =>
    by_cases holds : m.Holds marker
    · exact ⟨[], m, ms, rfl, fun k member => absurd member List.not_mem_nil, holds⟩
    · have later : ¬ ∀ k ∈ ms, ¬ k.Holds marker := by
        intro silent
        exact some (List.forall_mem_cons.2 ⟨holds, silent⟩)
      obtain ⟨before, m', after, rfl, silent, holds'⟩ := ih later
      exact ⟨m :: before, m', after, rfl, List.forall_mem_cons.2 ⟨holds, silent⟩, holds'⟩

namespace RelayResult

/-- A relay observed what another did, and echoes of it, and came to the same end. -/
structure Repeats (r r' : RelayResult) (echoes : List Message) : Prop where
  hops : Echoes ∅ (r'.observedHops.map Reply.message) echoes (r.observedHops.map Reply.message)
  payload : r.terminalPayload = r'.terminalPayload
  timedOut : r.timedOut = r'.timedOut
  notes : r.notes = r'.notes

variable {r r' : RelayResult} {marker : String} {ms es whole : List Message} {faults : List String}

/-- No echo is the first message with the marker, so both relays end at the same message. -/
theorem repeats_of_observes (made : Echoes ∅ ms es whole) (observes : r.Observes marker whole faults)
    (observes' : r'.Observes marker ms faults) :
    ∃ echoes, r.Repeats r' echoes ∧ echoes <+: es ∧ (r.timedOut = true → echoes = es) := by
  have heard {before some first : List Message} (made : Echoes ∅ before some first) :
      ∀ k ∈ first, k ∈ before := by
    intro k member
    rcases (made.mem_iff k).1 member with original | echo
    · exact original
    · exact (made.heard k echo).resolve_left (Set.notMem_empty k)
  by_cases silent : ∀ m ∈ ms, ¬ m.Holds marker
  · obtain ⟨hops, payload, timedOut, notes⟩ :=
      observes.unseen fun m member => silent m (heard made m member)
    obtain ⟨hops', payload', timedOut', notes'⟩ := observes'.unseen silent
    refine ⟨es, ⟨?_, payload.trans payload'.symm, timedOut.trans timedOut'.symm,
      notes.trans notes'.symm⟩, List.prefix_rfl, fun _ => rfl⟩
    rw [hops, hops']
    exact made
  · obtain ⟨before, m, after, split, silentBefore, holds⟩ := Message.exists_first silent
    obtain ⟨first, rest, some, wholeSplit, begins, madeFirst⟩ := made.cut split
    obtain ⟨hops, payload, timedOut, notes⟩ := observes.seen first m rest wholeSplit
      (fun k member => silentBefore k (heard madeFirst k member)) holds
    obtain ⟨hops', payload', timedOut', notes'⟩ := observes'.seen before m after split silentBefore
      holds
    refine ⟨some, ⟨?_, payload.trans payload'.symm, timedOut.trans timedOut'.symm,
      notes.trans notes'.symm⟩, begins, fun late => ?_⟩
    · rw [hops, hops']
      exact madeFirst.append_original [m]
    · rw [timedOut] at late
      cases late

end RelayResult

namespace Coordinator

variable {c : Coordinator} {seeds : List RecipientId} {payload : Json} {marker : String}
  {deadline : Nat} {w : World}

/-- On a network that is offline no channel is opened, whoever is to be asked. -/
theorem seed_offline {n : Network} (network : w.transport = .network n) (offline : n.offline = true)
    (seeds : List RecipientId) (payload : Json) :
    ∃ step w', c.seed seeds payload w =
        (.error (.notOpened (.transport "transport offline")), step, w') ∧
      w'.clock = (c.startSteps (w.newRequest payload).1.requestId [c.label]
        (w.newRequest payload).2).2.clock := by
  let v := (c.startSteps (w.newRequest payload).1.requestId [c.label] (w.newRequest payload).2).2
  have transport : v.transport = .network n := network
  let topic := c.topic "relay" (w.newRequest payload).1.requestId
  have failed : v.connect topic seeds (w.newRequest payload).1 =
      (.error (.notOpened (.transport "transport offline")),
        { v.log (.open topic seeds) with transport := .network n }.wait 0) := by
    simp only [World.connect, World.openChannel, transport, Transport.openChannel, Network.openHub,
      offline]
    rfl
  refine ⟨_, _, congrArg (fun o : Except World.ConnectFault Channel × World => (o.1, _, o.2)) failed,
    ?_⟩
  exact Clock.wait_zero v.clock

/-- A relay only notes that then. -/
theorem relay_distinct_of_offline {n : Network} (network : w.transport = .network n)
    (offline : n.offline = true) (accepted : relayRefusal? seeds payload marker deadline = none) :
    (c.relay (distinct seeds) payload marker deadline w).1 =
      (c.relay seeds payload marker deadline w).1 := by
  have acceptedOnce := relayRefusal?_distinct accepted
  obtain ⟨step, w', seeded, clock⟩ := c.seed_offline network offline seeds payload
  obtain ⟨stepOnce, once, seededOnce, clockOnce⟩ :=
    c.seed_offline network offline (distinct seeds) payload
  rw [relay_of_fault c accepted seeded, relay_of_fault c acceptedOnce seededOnce]
  simp only [World.now, clock, clockOnce]

/--
A relay over a network and a store that takes no time, compared with the relay to the distinct
seeds. On a network that is offline their results are the same. Otherwise, if only so many messages
come before the deadline, the channel carries what the distinct seeds give rise to, and echoes: what
the repeated ones give rise to. The relay has the same text with the marker, runs out of time just
as the other does, and has the same notes; but it observes the same hops exactly if it observes no
echoes. Those that it observes are the first that come, and all of them if time runs out. For each
seed is asked as often as it is listed, while a broadcast asks everybody once.
-/
theorem repeated_seeds_echo {n : Network} (network : w.transport = .network n)
    (prompt : c.recorder.IsPrompt w.journal)
    (accepted : relayRefusal? seeds payload marker deadline = none) :
    (n.offline = true → (c.relay (distinct seeds) payload marker deadline w).1 =
      (c.relay seeds payload marker deadline w).1) ∧
    (n.offline = false → ∀ count,
      (c.traffic seeds payload deadline n count w).length ≤ w.patience →
      (∀ k, c.traffic seeds payload deadline n k w <+:
        c.traffic seeds payload deadline n count w) →
      Echoes ∅ (c.traffic (distinct seeds) payload deadline n count w)
        (c.traffic (repeated seeds) payload deadline n count w)
        (c.traffic seeds payload deadline n count w) ∧
      ∃ r r' echoes, (c.relay seeds payload marker deadline w).1 = .ok r ∧
        (c.relay (distinct seeds) payload marker deadline w).1 = .ok r' ∧ r.Repeats r' echoes ∧
        echoes <+: c.traffic (repeated seeds) payload deadline n count w ∧
        (r.timedOut = true → echoes = c.traffic (repeated seeds) payload deadline n count w) ∧
        (r.observedHops.map Reply.message = r'.observedHops.map Reply.message ↔ echoes = [])) ∧
    (∀ q p, n.registry.get? q = some p → q ∈ seeds →
      (c.dispatched seeds payload n w).asked q = seeds.count q ∧
      (c.dispatched (distinct seeds) payload n w).asked q = 1) ∧
    c.broadcast (distinct seeds) payload deadline w = c.broadcast seeds payload deadline w := by
  have acceptedOnce := relayRefusal?_distinct accepted
  refine ⟨fun offline => c.relay_distinct_of_offline network offline accepted, ?_, ?_, ?_⟩
  · intro online count few whole
    obtain ⟨made, wholeOnce⟩ := (Hub.resounds_publish n.registry w.clock.moment
      (c.topic "relay" (w.newRequest payload).1.requestId) seeds
      (w.newRequest payload).1).arrivals (Hub.sound_publish _ _ _) whole
    have total : (c.traffic seeds payload deadline n count w).length =
        (c.traffic (distinct seeds) payload deadline n count w).length +
          (c.traffic (repeated seeds) payload deadline n count w).length := made.length_eq
    have fewOnce : (c.traffic (distinct seeds) payload deadline n count w).length ≤ w.patience := by
      omega
    obtain ⟨s, elapsed, done, observes⟩ :=
      c.relay_observes_traffic network online prompt accepted few (Or.inl whole)
    obtain ⟨s', elapsed', done', observes'⟩ :=
      c.relay_observes_traffic network online prompt acceptedOnce fewOnce (Or.inl wholeOnce)
    obtain ⟨echoes, repeats, begins, all⟩ := RelayResult.repeats_of_observes made observes observes'
    exact ⟨made, _, _, echoes, done, done', repeats, begins, all, repeats.hops.whole_eq_iff⟩
  · intro q p registered listed
    rw [c.dispatched_of_prompt seeds payload n prompt, c.dispatched_of_prompt _ payload n prompt,
      Hub.asked_publish _ _ _ registered, Hub.asked_publish _ _ _ registered]
    exact ⟨rfl, List.count_eq_one_of_mem (distinct_nodup seeds) ((mem_distinct q seeds).2 listed)⟩
  · exact c.broadcast_distinct (broadcastRefusal?_of_relayRefusal? accepted) w

/-- Whoever is listed twice is heard twice; the deadline comes either way. -/
theorem repeated_seeds_echo_rehearsal :
    ∃ r r', (rehearsal.relay [⟨"a"⟩, ⟨"a"⟩] (.string "hi") "end" 5 (World.duet [])).1 = .ok r ∧
      (rehearsal.relay [⟨"a"⟩] (.string "hi") "end" 5 (World.duet [])).1 = .ok r' ∧
      r.observedHops.length = r'.observedHops.length + 1 ∧ r'.timedOut = true := by
  have accepted : relayRefusal? [⟨"a"⟩, ⟨"a"⟩] (.string "hi") "end" 5 = none := by decide
  have prompt : rehearsal.recorder.IsPrompt (World.duet []).journal := by
    intro d member
    cases member
  have few : (rehearsal.traffic [⟨"a"⟩, ⟨"a"⟩] (.string "hi") 5 Network.duet 4
      (World.duet [])).length ≤ 2 := by
    decide +kernel
  have still : ((Hub.run Network.duet.registry (Moment.start 5) 4
      ((Hub.opened (rehearsal.topic "relay" (RequestId.generated 0)) [⟨"a"⟩, ⟨"a"⟩]).publish
        Network.duet.registry (World.duet []).clock.moment
        ⟨RequestId.generated 0, .string "hi"⟩)).step? Network.duet.registry
          (Moment.start 5)).isNone = true := by
    decide +kernel
  have late : (rehearsal.relay [⟨"a"⟩, ⟨"a"⟩] (.string "hi") "end" 5
      (World.duet [])).1.toOption.map RelayResult.timedOut = some true := by
    decide +kernel
  have once : (rehearsal.traffic (repeated [⟨"a"⟩, ⟨"a"⟩]) (.string "hi") 5 Network.duet 4
      (World.duet [])).length = 1 := by
    decide +kernel
  obtain ⟨-, online, -, -⟩ := repeated_seeds_echo (w := World.duet []) rfl prompt accepted
  obtain ⟨-, r, r', echoes, done, done', repeats, -, all, -⟩ :=
    online rfl 4 few (Hub.arrivals_of_rest (Option.isNone_iff_eq_none.1 still))
  rw [done] at late
  have timedOut : r.timedOut = true := Option.some.inj late
  have length := repeats.hops.length_eq
  rw [all timedOut, once, List.length_map, List.length_map] at length
  exact ⟨r, r', done, done', length, repeats.timedOut.symm.trans timedOut⟩

/-- So the hops are not those of the relay to distinct seeds. -/
theorem relay_hears_an_echo :
    (rehearsal.relay [⟨"a"⟩, ⟨"a"⟩] (.string "hi") "end" 5 (World.duet [])).1.toOption.map
        RelayResult.hopSenders = some [⟨"a"⟩, ⟨"a"⟩] ∧
      (rehearsal.relay (distinct [⟨"a"⟩, ⟨"a"⟩]) (.string "hi") "end" 5
        (World.duet [])).1.toOption.map RelayResult.hopSenders = some [⟨"a"⟩] := by
  decide +kernel

end Coordinator

end RollCall
