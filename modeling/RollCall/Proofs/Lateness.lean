import RollCall.Proofs.Bookkeeping
import RollCall.Proofs.Lockstep
import RollCall.Proofs.Network

set_option autoImplicit false

/-!
A broadcast over a network beside the same broadcast over a store that takes no time. Whatever its
store does, it notes the same reports in the same order as long as it turns to the channel before
the deadline; once it is late the reports that are left become missing, though their messages have
come.
-/
namespace RollCall

/-- Before a limit a wait on a network's channel comes to the same, whenever it begins. -/
theorem Transport.receive_early (t : Transport) {c d : Clock} {limit : Nat} (early : c.now < limit)
    (ahead : d.now ≤ c.now) (h : Hub) :
    (t.receive d limit (.hub h)).1 = (t.receive c limit (.hub h)).1 ∧
      (t.receive d limit (.hub h)).2.1 = (t.receive c limit (.hub h)).2.1 ∧
      (t.receive d limit (.hub h)).2.2.now ≤ (t.receive c limit (.hub h)).2.2.now ∧
      (limit ≤ (t.receive c limit (.hub h)).2.2.now →
        limit ≤ (t.receive d limit (.hub h)).2.2.now) := by
  have bounded {e : Clock} (before : e.now < limit) :
      e.moment.latest (Moment.start limit) = Moment.start limit :=
    if_pos (Moment.before_start_iff.2 before)
  simp only [receive, Hub.receive, bounded early, bounded (Nat.lt_of_le_of_lt ahead early)]
  split
  · simp only [Clock.now_waitFor, true_and]
    omega
  · simp only [Clock.now_waitUntil, true_and]
    omega

namespace World

/-- The same but for the traces; the first may be behind the second, whose store takes no time. -/
structure Lags (c : Coordinator) (w v : World) : Prop where
  transport : v.transport = w.transport
  patience : v.patience = w.patience
  now : v.now ≤ w.now
  prompt : c.recorder.IsPrompt v.journal

variable {c : Coordinator} {w v : World}

theorem Lags.recorded (lags : Lags c w v) {j k : Journal} (le : w.journal.clock.now ≤ j.clock.now)
    (atOnce : c.recorder.Timeless v.journal k) :
    Lags c { w with journal := j } { v with journal := k } := by
  obtain ⟨prompt, moment⟩ := atOnce lags.prompt
  have now : k.clock.now = v.now := congrArg Moment.ms moment
  refine ⟨lags.transport, lags.patience, ?_, prompt⟩
  show k.clock.now ≤ j.clock.now
  rw [now]
  exact Nat.le_trans lags.now le

theorem Lags.endStep (lags : Lags c w v) (id : RequestId) (step step' : Option StepId)
    (success : Bool) : Lags c (c.endStep id step success w) (c.endStep id step' success v) :=
  lags.recorded (c.endSteps_within id [(step, success)] w).le
    (c.endStep_timeless id step' success v)

theorem Lags.startSteps (lags : Lags c w v) (id : RequestId) (participants : List String) :
    Lags c (c.startSteps id participants w).2 (c.startSteps id participants v).2 :=
  lags.recorded (c.startSteps_within id participants w).le (c.startSteps_timeless id participants v)

/-- On the channel of a network a fan-out goes on as one that is ahead. -/
theorem lockstep_lags (c : Coordinator) (limit : Nat) :
    Lockstep c limit (fun ch => ∃ h, ch = .hub h) (Lags c) where
  patience lags := lags.patience
  early lags early := Nat.lt_of_le_of_lt lags.now early
  receive := by
    intro w v lags early ch held
    obtain ⟨h, rfl⟩ := held
    obtain ⟨reading, channel, le, late⟩ := w.transport.receive_early early lags.now h
    unfold World.receive
    rw [lags.transport]
    exact ⟨reading, channel, ⟨_, rfl⟩, ⟨lags.transport, lags.patience, le, lags.prompt⟩, late⟩
  endStep lags := lags.endStep
  release lags ch :=
    ⟨congrArg (Transport.release ch) lags.transport, lags.patience, lags.now, lags.prompt⟩

end World

namespace FanOut

variable {c : Coordinator} {limit : Nat} {Held : Channel → Prop} {Beside : World → World → Prop}
  {f g : FanOut} {w v : World}

/-- The instants at which a fan-out turns to its channel for a report. -/
def turns : Nat → FanOut → World → List Nat
  | 0, _, _ => []
  | count + 1, f, w =>
    if f.setupFailure.isSome then []
    else
      w.now :: match f.next w with
        | (some _, f, w) => turns count f w
        | (none, _, _) => []

theorem turns_of_refused {failure : String} (setup : f.setupFailure = some failure) (count : Nat)
    (w : World) : f.turns count w = [] := by
  cases count with
  | zero => rfl
  | succ count => rw [turns, setup, Option.isSome_some, if_pos rfl]

/--
Who is behind gathers the first of the reports, and all of them exactly if each time there is one
more to come it turns to the channel before the limit.
-/
theorem Abreast.gather_behind (count : Nat) (abreast : Abreast c limit Held Beside f w g v)
    (lockstep : World.Lockstep c limit Held Beside) :
    (f.gather count w).1 <+: (g.gather count v).1 ∧
      ((f.gather count w).1 = (g.gather count v).1 ↔
        ∀ t ∈ (f.turns count w).take (g.gather count v).1.length, t < limit) := by
  induction count generalizing f w g v with
  | zero => exact ⟨List.prefix_rfl, by simp [FanOut.gather]⟩
  | succ count ih =>
    by_cases inTime : f.setupFailure ≠ none ∨ w.now < limit
    · obtain ⟨report, still⟩ := abreast.next inTime lockstep
      obtain ⟨log, run⟩ := next_run f w
      have setupLater := run.sameCall.setupFailure
      rw [FanOut.gather, FanOut.gather, turns]
      generalize f.next w = a at report still setupLater ⊢
      generalize g.next v = b at report still ⊢
      obtain ⟨r, f', w'⟩ := a
      obtain ⟨r', g', v'⟩ := b
      obtain rfl : r' = r := report
      cases r' with
      | none => exact ⟨List.prefix_rfl, by simp⟩
      | some r =>
        obtain ⟨first, all⟩ := ih still
        refine ⟨(List.prefix_cons_inj r).2 first, ?_⟩
        dsimp only at setupLater ⊢
        rw [List.cons.injEq, eq_self, true_and, all]
        cases setup : f.setupFailure with
        | some failure =>
          rw [turns_of_refused (setupLater.trans setup)]
          simp
        | none =>
          have early : w.now < limit := inTime.resolve_left (not_not.2 setup)
          simp [early]
    · rw [not_or, not_not, Nat.not_lt] at inTime
      obtain ⟨setup, late⟩ := inTime
      rw [FanOut.gather, turns, next_of_late setup (abreast.deadline ▸ late), setup]
      refine ⟨List.nil_prefix, ?_⟩
      cases reports : (g.gather (count + 1) v).1 with
      | nil => simp
      | cons r rest => simpa using late

end FanOut

namespace BroadcastOutcome

def reportCount (o : BroadcastOutcome) : Nat := o.succeeded.size + o.failed.size

theorem reportCount_ofReports (id : RequestId) (missing : List RecipientId)
    {reports : List Resolution} (once : (reports.map Resolution.sender).Nodup) :
    (ofReports id reports missing).reportCount = reports.length := by
  have parts : (ofReports id reports []).Partitions (reports.map Resolution.sender) :=
    partitions_ofReports once (fun s member => List.mem_map_of_mem member) (by simp)
  have size : (ofReports id reports missing).reportCount = (ofReports id reports []).size := rfl
  rw [size, parts.size_eq, List.toFinset_card_of_nodup once, List.length_map]

/-- With all others missing, fewer reports make another outcome. -/
theorem ofReports_eq_iff (id : RequestId) {rs ss : List Resolution}
    {pending missing missing' : List RecipientId} (first : rs <+: ss)
    (once : (ss.map Resolution.sender).Nodup)
    (left : missing = pending.filter (· ∉ rs.map Resolution.sender))
    (left' : missing' = pending.filter (· ∉ ss.map Resolution.sender)) :
    ofReports id rs missing = ofReports id ss missing' ↔ rs = ss := by
  have onceFirst : (rs.map Resolution.sender).Nodup :=
    once.sublist (first.sublist.map Resolution.sender)
  constructor
  · intro same
    have counts := congrArg reportCount same
    rw [reportCount_ofReports id missing onceFirst, reportCount_ofReports id missing' once] at counts
    exact first.eq_of_length counts
  · intro same
    rw [left, left', same]

/-- What fewer reports say more reports say too. -/
theorem get?_of_isPrefix (id : RequestId) {rs ss : List Resolution}
    (missing missing' : List RecipientId) (first : rs <+: ss)
    (once : (ss.map Resolution.sender).Nodup) (r : RecipientId) :
    (∀ text, (ofReports id rs missing).succeeded.get? r = some text →
        (ofReports id ss missing').succeeded.get? r = some text) ∧
      ∀ e, (ofReports id rs missing).failed.get? r = some e →
        (ofReports id ss missing').failed.get? r = some e := by
  have onceFirst : (rs.map Resolution.sender).Nodup :=
    once.sublist (first.sublist.map Resolution.sender)
  refine ⟨?_, ?_⟩
  · intro text answered
    rw [(get?_ofReports onceFirst r).1] at answered
    exact ((get?_ofReports once r).1 text).2 (first.subset answered)
  · intro e failed
    rw [(get?_ofReports onceFirst r).2] at failed
    exact ((get?_ofReports once r).2 e).2 (first.subset failed)

end BroadcastOutcome

namespace Coordinator

variable (c : Coordinator) (recipients : List RecipientId) (payload : Json) (deadline : Nat)

/-- The instants at which a broadcast turns to its channel for a report. -/
def turns (w : World) : List Nat :=
  let (f, w) := c.setOut recipients payload deadline w
  f.turns (f.slots.length + 1) w

variable {c} {w v : World} {n : Network}

theorem abreast_setOut_lags (network : w.transport = .network n) (alike : w.Alike v)
    (prompt : c.recorder.IsPrompt v.journal) :
    FanOut.Abreast c (w.now + deadline) (fun ch => ∃ h, ch = .hub h) (World.Lags c)
      (c.setOut recipients payload deadline w).1 (c.setOut recipients payload deadline w).2
      (c.setOut recipients payload deadline v).1 (c.setOut recipients payload deadline v).2 := by
  obtain ⟨request, asked⟩ := alike.newRequest payload
  have outset := FanOut.alike_start c (distinct recipients) (w.newRequest payload).1 deadline asked
  obtain ⟨-, connected⟩ := asked.connect
    (c.topic "broadcast" (w.newRequest payload).1.requestId) (distinct recipients)
    (w.newRequest payload).1
  have lags : World.Lags c
      ((w.newRequest payload).2.connect (c.topic "broadcast" (w.newRequest payload).1.requestId)
        (distinct recipients) (w.newRequest payload).1).2
      ((v.newRequest payload).2.connect (c.topic "broadcast" (w.newRequest payload).1.requestId)
        (distinct recipients) (w.newRequest payload).1).2 := by
    exact ⟨connected.transport, connected.patience, Nat.le_of_eq connected.now,
      (World.takes_connect _ _ _ _).isPrompt prompt⟩
  have opened := lags.startSteps (w.newRequest payload).1.requestId
    (c.label :: (distinct recipients).map RecipientId.text)
  have asking : (w.newRequest payload).2.transport = .network n := network
  rw [setOut_eq, setOut_eq, request]
  refine ⟨outset, opened, ?_, rfl, rfl⟩
  intro ch held
  exact FanOut.hub_start c (distinct recipients) (w.newRequest payload).1 deadline asking held

variable {recipients payload deadline}

/--
A broadcast over a network, with any store, beside one with a store that takes no time. What it
reports the other one reports too, and with that one each recipient whose first reply comes before
the deadline is listed with it. Both have the same outcome exactly if, as long as there are reports
to come, the store leaves the broadcast time to turn to its channel before the deadline.
-/
theorem broadcast_unaffected_iff (network : w.transport = .network n) (alike : w.Alike v)
    (prompt : c.recorder.IsPrompt v.journal)
    (accepted : broadcastRefusal? recipients payload deadline = none) :
    ∃ o o', (c.broadcast recipients payload deadline w).1 = .ok o ∧
      (c.broadcast recipients payload deadline v).1 = .ok o' ∧
      (∀ r text, o.succeeded.get? r = some text → o'.succeeded.get? r = some text) ∧
      (∀ r e, o.failed.get? r = some e → o'.failed.get? r = some e) ∧
      (o = o' ↔ ∀ t ∈ (c.turns recipients payload deadline w).take o'.reportCount,
        t < w.now + deadline) ∧
      (n.offline = false → ∀ count,
        (c.incoming recipients payload deadline n count v).length ≤ v.patience →
        ∀ r ∈ recipients, ∀ m,
          firstReply? (c.incoming recipients payload deadline n count v) r = some m →
            (∀ text, m.body.classify = .ok text → o'.succeeded.get? r = some text) ∧
              ∀ e, m.body.classify = .error e → o'.failed.get? r = some e) := by
  have abreast := abreast_setOut_lags recipients payload deadline network alike prompt
  have turned : c.turns recipients payload deadline w =
      (c.setOut recipients payload deadline w).1.turns
        ((c.setOut recipients payload deadline w).1.slots.length + 1)
        (c.setOut recipients payload deadline w).2 := rfl
  rcases started : c.setOut recipients payload deadline w with ⟨f, w'⟩
  rcases started' : c.setOut recipients payload deadline v with ⟨g, v'⟩
  rw [started] at turned
  rw [started, started'] at abreast
  have slots : g.slots.length = f.slots.length :=
    (length_slots_setOut c started').trans (length_slots_setOut c started).symm
  obtain ⟨first, all⟩ :=
    abreast.gather_behind (f.slots.length + 1) (World.lockstep_lags c (w.now + deadline))
  obtain ⟨log, run⟩ := FanOut.gather_run (f.slots.length + 1) f w'
  obtain ⟨log', run'⟩ := FanOut.gather_run (f.slots.length + 1) g v'
  rcases gathered : f.gather (f.slots.length + 1) w' with ⟨rs, f', w''⟩
  rcases gathered' : g.gather (f.slots.length + 1) v' with ⟨ss, g', v''⟩
  rw [gathered] at run first all
  rw [gathered'] at run' first all
  have id : f'.requestId = g'.requestId := by
    rw [run.sameCall.requestId, run'.sameCall.requestId, abreast.alike.requestId]
  obtain ⟨-, -, left⟩ := run.missing
  obtain ⟨once, -, left'⟩ := run'.missing
  rw [abreast.alike.missing] at left'
  rw [← slots] at gathered'
  have done := broadcast_eq c w accepted started gathered
  have done' := broadcast_eq c v accepted started' gathered'
  rw [id] at done
  have told := BroadcastOutcome.get?_of_isPrefix g'.requestId f'.missing g'.missing first once
  refine ⟨_, _, congrArg Prod.fst done, congrArg Prod.fst done', fun r => (told r).1,
    fun r => (told r).2, ?_, ?_⟩
  · rw [BroadcastOutcome.ofReports_eq_iff g'.requestId first once left left', all, turned,
      BroadcastOutcome.reportCount_ofReports g'.requestId g'.missing once]
  · intro online count few r listed m replied
    have network' : v.transport = .network n := alike.transport.trans network
    have read : firstReply? ((c.incoming recipients payload deadline n count v).take v.patience) r =
        some m := by
      rw [List.take_of_length_le few]
      exact replied
    exact c.broadcast_hears network' online prompt accepted (congrArg Prod.fst done') listed read

end Coordinator

def Network.rehearsal : Network :=
  ⟨RecipientMap.empty.insert ⟨"a"⟩
    (Participant.scripted [⟨.request, ⟨.payload (.string "hi"), [], 1⟩⟩]), false, 0, [],
    fun _ => ⟨0, 0⟩⟩

def World.networkRehearsal (script : List Disturbance) : World :=
  { rehearsal script with transport := .network Network.rehearsal, patience := 1 }

namespace Coordinator

/-- Two accesses of three milliseconds leave a broadcast of seven time enough. -/
theorem broadcast_unaffected_iff_rehearsal :
    ∃ o o', (rehearsal.broadcast [⟨"a"⟩] (.string "hi") 7
        (World.networkRehearsal [.stall 3, .stall 3])).1 = .ok o ∧
      (rehearsal.broadcast [⟨"a"⟩] (.string "hi") 7 (World.networkRehearsal [])).1 = .ok o' ∧
      o = o' ∧ o.succeeded.get? ⟨"a"⟩ = some "hi" := by
  have alike : (World.networkRehearsal [.stall 3, .stall 3]).Alike (World.networkRehearsal []) :=
    ⟨rfl, rfl, rfl, rfl, rfl, rfl⟩
  have prompt : rehearsal.recorder.IsPrompt (World.networkRehearsal []).journal := by
    intro d member
    cases member
  have inTime : ∀ t ∈ rehearsal.turns [⟨"a"⟩] (.string "hi") 7
      (World.networkRehearsal [.stall 3, .stall 3]), t < 0 + 7 := by
    decide +kernel
  have few : (rehearsal.incoming [⟨"a"⟩] (.string "hi") 7 Network.rehearsal 2
      (World.networkRehearsal [])).length ≤ 1 := by
    decide +kernel
  have came : (firstReply? (rehearsal.incoming [⟨"a"⟩] (.string "hi") 7 Network.rehearsal 2
      (World.networkRehearsal [])) ⟨"a"⟩).map (fun m => m.body.classify) = some (.ok "hi") := by
    decide +kernel
  obtain ⟨m, first, answer⟩ := Option.map_eq_some_iff.1 came
  obtain ⟨o, o', done, done', -, -, same, heard⟩ :=
    broadcast_unaffected_iff (n := Network.rehearsal) rfl alike prompt
      (show broadcastRefusal? [⟨"a"⟩] (.string "hi") 7 = none by decide)
  have equal : o = o' := same.2 fun t member => inTime t (List.mem_of_mem_take member)
  obtain ⟨answered, -⟩ := heard rfl 2 few ⟨"a"⟩ (by decide) m first
  exact ⟨o, o', done, done', equal, equal ▸ answered "hi" answer⟩

/-- Five are not enough, though both accesses are carried out and the answer comes in time. -/
theorem broadcast_loses_an_answer :
    TraceStore.admission rehearsal.recorder.storeTimeout.millis (.stall 3) = (.carriedOut, 3) ∧
      (firstReply? (rehearsal.incoming [⟨"a"⟩] (.string "hi") 5 Network.rehearsal 2
        (World.networkRehearsal [.stall 3, .stall 3])) ⟨"a"⟩).map (fun m => m.body.classify) =
          some (.ok "hi") ∧
      (rehearsal.broadcast [⟨"a"⟩] (.string "hi") 5
        (World.networkRehearsal [])).1.toOption.map (fun o => o.succeeded.get? ⟨"a"⟩) =
          some (some "hi") ∧
      (rehearsal.broadcast [⟨"a"⟩] (.string "hi") 5
        (World.networkRehearsal [.stall 3, .stall 3])).1.toOption.map (fun o => o.missing.keys) =
          some [⟨"a"⟩] := by
  decide +kernel

end Coordinator

end RollCall
