import RollCall.Proofs.Exchange
import RollCall.Proofs.Network
import RollCall.Proofs.Quickest

set_option autoImplicit false

/-!
A broadcast to one recipient beside an exchange with it. On the channel of such a broadcast nothing
can come before the recipient's quickest reply, however much is passed on to others after it; an
exchange waits for the same reply.
-/
namespace RollCall

open Surfacing (replies quickest?)

namespace Hub

variable {registry : Registry} {moment bound : Moment} {limit : Nat} {h h' : Hub} {t : Task}

theorem arrivals_of_still (still : h.step? registry (Moment.start limit) = none) (count : Nat) :
    h.arrivals registry limit count = h.inbox.map Arrival.message := by
  rw [arrivals, run_of_still still]

theorem arrivals_of_step (step : h.step? registry (Moment.start limit) = some h') (count : Nat) :
    h.arrivals registry limit (count + 1) = h'.arrivals registry limit count := by
  rw [arrivals, arrivals, run, step]

/-- An answer that is due comes before all else that its task gives out. -/
theorem inbox_act_of_due (registry : Registry) (isOpen : h.closed = false) {o : Outbound}
    (rest : List Outbound) (due : t.received + o.delay ≤ moment.ms) :
    ∃ new, (act registry moment t (o :: rest) h).inbox =
      h.inbox ++ ⟨moment, ⟨t.owner, o.body, o.forwardTo⟩⟩ :: new := by
  rw [act_of_due isOpen due]
  obtain ⟨new, inbox, -⟩ := inbox_act registry moment t rest { h with
    inbox := h.inbox ++ [⟨moment, ⟨t.owner, o.body, o.forwardTo⟩⟩]
    fresh := h.fresh ++ started registry moment ⟨t.requestId, some t.owner, o.body⟩ o.forwardTo }
  rw [List.append_assoc] at inbox
  exact ⟨new, inbox⟩

theorem step?_of_fresh (registry : Registry) (fresh : h.fresh = [t]) (waiting : h.waiting = [])
    (early : t.due.before bound) :
    h.step? registry bound = some (act registry t.due t t.outbounds { h with fresh := [] }) := by
  simp [step?, next?, earliest?, fresh, waiting, early]

theorem step?_of_waiting (registry : Registry) (bound : Moment) (fresh : h.fresh = [])
    (waiting : h.waiting = [t]) :
    h.step? registry bound = if t.due.before bound
      then some (act registry t.due t t.outbounds { h with waiting := [] }) else none := by
  simp [step?, next?, earliest?, fresh, waiting]

/-- A channel whose only task has not run, since the message reached its owner. -/
structure Sole (t : Task) (h : Hub) : Prop where
  isOpen : h.closed = false
  fresh : h.fresh = [t]
  waiting : h.waiting = []
  inbox : h.inbox = []
  received : t.received = t.due.ms

/-- After its first turn the task waits for its first answer, unless that is due at once. -/
theorem Sole.after (registry : Registry) (sole : h.Sole t) (early : t.due.ms < limit)
    {o : Outbound} {rest : List Outbound} (outbounds : t.outbounds = o :: rest)
    (later : o.delay ≠ 0) :
    ∃ h' u, h.step? registry (Moment.start limit) = some h' ∧ h'.fresh = [] ∧ h'.waiting = [u] ∧
      h'.inbox = [] ∧ h'.closed = false ∧ u.owner = t.owner ∧ u.received = t.received ∧
      u.outbounds = o :: rest ∧ u.due = Moment.start (t.received + o.delay) := by
  have notDue : ¬ t.received + o.delay ≤ t.due.ms := by
    have received := sole.received
    omega
  rw [step?_of_fresh registry sole.fresh sole.waiting (Moment.before_start_iff.2 early), outbounds,
    act, if_neg notDue]
  refine ⟨_, { t with due := Moment.start (t.received + o.delay), outbounds := o :: rest }, rfl,
    rfl, ?_, sole.inbox, sole.isOpen, rfl, rfl, rfl, rfl⟩
  show h.waiting ++ [_] = _
  rw [sole.waiting]
  rfl

/-- The first message to come is the first answer of the only task. -/
theorem Sole.arrivals_of_early (registry : Registry) (sole : h.Sole t) {o : Outbound}
    {rest : List Outbound} (outbounds : t.outbounds = o :: rest)
    (soon : t.received + o.delay < limit) :
    ∃ count later, h.arrivals registry limit count = ⟨t.owner, o.body, o.forwardTo⟩ :: later := by
  have received := sole.received
  have early : t.due.ms < limit := by omega
  by_cases atOnce : o.delay = 0
  · have due : t.received + o.delay ≤ t.due.ms := by omega
    obtain ⟨new, inbox⟩ := inbox_act_of_due (h := { h with fresh := [] }) registry sole.isOpen rest due
    have step := step?_of_fresh registry sole.fresh sole.waiting (Moment.before_start_iff.2 early)
    refine ⟨1, new.map Arrival.message, ?_⟩
    rw [arrivals_of_step step, arrivals, run, outbounds, inbox]
    show (h.inbox ++ _).map Arrival.message = _
    rw [sole.inbox]
    rfl
  · obtain ⟨h', u, step, fresh, waiting, empty, isOpen, owner, since, answers, moment⟩ :=
      sole.after registry early outbounds atOnce
    have due : u.received + o.delay ≤ u.due.ms := by
      rw [moment, since]
      exact Nat.le_refl _
    have before : u.due.before (Moment.start limit) := by
      rw [moment]
      exact Moment.before_start_iff.2 soon
    have next := step?_of_waiting registry (Moment.start limit) fresh waiting
    rw [if_pos before] at next
    obtain ⟨new, inbox⟩ := inbox_act_of_due (h := { h' with waiting := [] }) registry isOpen rest due
    refine ⟨2, new.map Arrival.message, ?_⟩
    rw [arrivals_of_step step, arrivals_of_step next, arrivals, run, answers, inbox]
    show (h'.inbox ++ _).map Arrival.message = _
    rw [empty, owner]
    rfl

/-- Nothing comes if the only task has nothing to give out in time. -/
theorem Sole.arrivals_of_late (sole : h.Sole t) (early : t.due.ms < limit)
    (late : ∀ o ∈ t.outbounds.head?, limit ≤ t.received + o.delay) (count : Nat) :
    h.arrivals registry limit count = [] := by
  have start : h.arrivals registry limit 0 = [] := by
    rw [arrivals, run, sole.inbox]
    rfl
  -- the task has one turn, after which nothing more is due
  have turn : ∃ h', h.step? registry (Moment.start limit) = some h' ∧ h'.inbox = [] ∧
      h'.step? registry (Moment.start limit) = none := by
    cases outbounds : t.outbounds with
    | nil =>
      rw [step?_of_fresh registry sole.fresh sole.waiting (Moment.before_start_iff.2 early),
        outbounds, act]
      refine ⟨_, rfl, sole.inbox, ?_⟩
      simp [step?, next?, earliest?, sole.waiting]
    | cons o rest =>
      have never := late o (by rw [outbounds]; rfl)
      have later : o.delay ≠ 0 := by
        have received := sole.received
        omega
      obtain ⟨h', u, step, fresh, waiting, empty, -, -, -, -, moment⟩ :=
        sole.after registry early outbounds later
      refine ⟨h', step, empty, ?_⟩
      have after : ¬ u.due.before (Moment.start limit) = true := by
        rw [moment, Moment.before_start_iff]
        exact Nat.not_lt.2 never
      rw [step?_of_waiting registry _ fresh waiting, if_neg after]
  obtain ⟨h', step, empty, still⟩ := turn
  cases count with
  | zero => exact start
  | succ count =>
    rw [arrivals_of_step step, arrivals_of_still still, empty]
    rfl

end Hub

section

variable {scripts : RecipientMap (List Rule)} {n : Network} {w : World} {r : RecipientId}
  {rules : List Rule} {payload : Json} {deadline : Nat} {o : Outbound}

/-- A scripted participant answers every request in the same way. -/
theorem head?_answers_scripted (registered : scripts.get? r = some rules) (m : Inbound)
    (asked : m.sender = none) :
    ((Participant.scripted rules).answers m).head? = quickest? scripts r := by
  rw [Participant.head?_answers, quickest?, replies, registered, Participant.scripted, asked]
  rfl

/-- The quickest reply is that of a rule for requests. -/
theorem exists_rule_of_quickest (registered : scripts.get? r = some rules)
    (first : o ∈ quickest? scripts r) :
    ∃ rule ∈ rules, rule.trigger.meets none = true ∧ rule.outbound = o := by
  have reply := List.argmin_mem first
  rw [replies, registered] at reply
  obtain ⟨rule, met, same⟩ := List.mem_map.1 reply
  obtain ⟨listed, asked⟩ := List.mem_filter.1 met
  exact ⟨rule, listed, asked, same⟩

/-- A broadcast to one recipient sets out with one task. -/
theorem Hub.sole_published {registry : Registry} {p : Participant} (topic : String)
    (request : Request) (moment : Moment) (registered : registry.get? r = some p) :
    ((opened topic [r]).publish registry moment request).Sole
      ⟨r, request.requestId, moment, moment.ms,
        p.answers ⟨request.requestId, none, .payload request.payload⟩⟩ := by
  rw [publish_eq request rfl]
  refine ⟨rfl, ?_, rfl, rfl, rfl⟩
  show [] ++ started registry moment _ [r] = _
  simp [started, registered]

namespace BroadcastOutcome

/-- The outcome of a broadcast to one recipient says what an exchange with it returned. -/
structure Agrees (o : BroadcastOutcome) (r : RecipientId) (result : Except Error String) : Prop where
  succeeded : ∀ text, result = .ok text ↔ o.succeeded.entries = [(r, text)]
  failed : ∀ e, result = .error (.remote e) ↔ o.failed.entries = [(r, e)]
  missing : (∃ what, result = .error (.timeout what)) ↔ o.missing.keys = [r]

theorem agrees_of_report (id : RequestId) (r : RecipientId) (result : Except RemoteError String) :
    (ofReports id [⟨r, result⟩] []).Agrees r (result.mapError Error.remote) := by
  have nobody : (ofReports id [⟨r, result⟩] []).missing.keys = [] := rfl
  cases result with
  | ok text =>
    have answered : (ofReports id [⟨r, .ok text⟩] []).succeeded.entries = [(r, text)] := rfl
    have sound : (ofReports id [⟨r, .ok text⟩] []).failed.entries = [] := rfl
    constructor <;> simp [nobody, answered, sound, Except.mapError]
  | error e =>
    have answered : (ofReports id [⟨r, .error e⟩] []).succeeded.entries = [] := rfl
    have failed : (ofReports id [⟨r, .error e⟩] []).failed.entries = [(r, e)] := rfl
    constructor <;> simp [nobody, answered, failed, Except.mapError]

theorem agrees_of_silence (id : RequestId) (r : RecipientId) (what : String) :
    (ofReports id [] [r]).Agrees r (.error (.timeout what)) := by
  have answered : (ofReports id [] [r]).succeeded.entries = [] := rfl
  have sound : (ofReports id [] [r]).failed.entries = [] := rfl
  have missing : (ofReports id [] [r]).missing.keys = [r] := rfl
  constructor <;> simp [answered, sound, missing]

end BroadcastOutcome

namespace FanOut

variable {registry : Registry} {f f' : FanOut} {w' : World} {h : Hub} {t : Task} {log : List Call}
  {rs : List Resolution}

/-- Where nothing comes nobody reports. -/
theorem Run.reports_of_silence (run : Run f w log rs f' w') (attends : f.Attends registry w h)
    (nothing : ∀ count, h.arrivals registry f.deadline count = []) : rs = [] := by
  obtain ⟨h', -, -, ran, came⟩ := run.attends attends
  have first := came 0
  rw [nothing] at first
  rw [run.replies attends.setup, (List.append_eq_nil_iff.1 first.symm).1]
  rfl

/-- One who is owed a report alone is missing, or has reported once. -/
theorem Run.of_sole (run : Run f w log rs f' w') (only : f.missing = [r]) :
    (rs = [] ∧ f'.missing = [r]) ∨ ∃ result, rs = [⟨r, result⟩] ∧ f'.missing = [] := by
  obtain ⟨once, owed, left⟩ := run.missing
  rw [only] at owed left
  cases rs with
  | nil => exact Or.inl ⟨rfl, by simpa using left⟩
  | cons s rest =>
    right
    obtain ⟨sender, result⟩ := s
    have same : sender = r := List.mem_singleton.1 (owed _ List.mem_cons_self)
    subst same
    cases rest with
    | nil => exact ⟨result, rfl, by simpa using left⟩
    | cons u others =>
      have again : u.sender = sender := List.mem_singleton.1 (owed u (by simp))
      simp [again] at once

/-- Over one task the report is the first answer, if that is given out before the deadline. -/
theorem Attends.gathered_sole (attends : f.Attends registry w h) (sole : h.Sole t)
    (early : t.due.ms < f.deadline) (only : f.missing = [t.owner]) (patient : 0 < w.patience)
    {count : Nat} (enough : f.missing.length < count)
    (gathered : f.gather count w = (rs, f', w')) :
    (∀ o ∈ t.outbounds.head?, t.received + o.delay < f.deadline →
        rs = [⟨t.owner, o.body.classify⟩] ∧ f'.missing = []) ∧
      ((∀ o ∈ t.outbounds.head?, f.deadline ≤ t.received + o.delay) →
        rs = [] ∧ f'.missing = [t.owner]) := by
  obtain ⟨log, run⟩ := gather_run count f w
  rw [gathered] at run
  dsimp only at run
  refine ⟨fun o first soon => ?_, fun late => ?_⟩
  · obtain ⟨rest, outbounds⟩ := List.head?_eq_some_iff.1 first
    obtain ⟨ran, later, came⟩ := sole.arrivals_of_early registry outbounds soon
    have heard : firstReply? ((h.arrivals registry f.deadline ran).take w.patience) t.owner =
        some ⟨t.owner, o.body, o.forwardTo⟩ := by
      obtain ⟨k, patience⟩ := Nat.exists_eq_succ_of_ne_zero (Nat.ne_of_gt patient)
      rw [came, patience, List.take_succ_cons]
      exact List.find?_cons_of_pos (by simp)
    have reported := attends.gathered enough gathered (by simp [only]) heard
    rcases run.of_sole only with ⟨nobody, -⟩ | ⟨result, all, missing⟩
    · rw [nobody] at reported
      cases reported
    · rw [all] at reported
      cases List.mem_singleton.1 reported
      exact ⟨all, missing⟩
  · have nobody := run.reports_of_silence attends (sole.arrivals_of_late early late)
    rcases run.of_sole only with missing | ⟨result, all, -⟩
    · exact missing
    · rw [nobody] at all
      cases all

end FanOut

namespace Coordinator

variable (c d : Coordinator)

/-- A broadcast to one recipient lists it with its quickest reply, if that comes in time. -/
theorem broadcast_of_one (network : w.transport = .network n) (online : n.offline = false)
    (scripted : n.registry = Registry.scripted scripts) (registered : scripts.get? r = some rules)
    (prompt : c.recorder.IsPrompt w.journal) (patient : 0 < w.patience)
    (accepted : broadcastRefusal? [r] payload deadline = none) :
    ∃ id, (∀ o ∈ quickest? scripts r, o.delay < deadline →
        (c.broadcast [r] payload deadline w).1 = .ok (.ofReports id [⟨r, o.body.classify⟩] [])) ∧
      ((∀ o ∈ quickest? scripts r, deadline ≤ o.delay) →
        (c.broadcast [r] payload deadline w).1 = .ok (.ofReports id [] [r])) := by
  have positive := deadline_pos [r] payload deadline accepted
  have member : n.registry.get? r = some (Participant.scripted rules) := by
    rw [scripted, Registry.get?_scripted, registered]
    rfl
  obtain ⟨attends, patience⟩ := FanOut.attends_start c (distinct [r]) (w.newRequest payload).1
    deadline (w := (w.newRequest payload).2) network online prompt positive
  have sole := Hub.sole_published (c.topic "broadcast" (w.newRequest payload).1.requestId)
    (w.newRequest payload).1 w.clock.moment member
  have quickest := head?_answers_scripted registered
    ⟨(w.newRequest payload).1.requestId, none, .payload (w.newRequest payload).1.payload⟩ rfl
  rw [← setOut_eq] at attends patience
  have limit : (c.setOut [r] payload deadline w).1.deadline = w.now + deadline := rfl
  rcases started : c.setOut [r] payload deadline w with ⟨f, w'⟩
  rcases gathered : f.gather (f.slots.length + 1) w' with ⟨reports, f', w''⟩
  obtain ⟨all, enough⟩ := missing_lt_slots c started
  rw [started] at attends patience limit
  dsimp only at attends patience limit
  have early : w.clock.moment.ms < f.deadline := by
    rw [limit]
    exact Nat.lt_add_of_pos_right positive
  obtain ⟨heard, silent⟩ := attends.gathered_sole sole early all
    (Nat.lt_of_lt_of_eq patient patience.symm) enough gathered
  rw [broadcast_eq c w accepted started gathered]
  refine ⟨f'.requestId, fun o first soon => ?_, fun late => ?_⟩
  · rw [← quickest] at first
    obtain ⟨rfl, missing⟩ := heard o first (by rw [limit]; exact Nat.add_lt_add_left soon _)
    rw [missing]
  · rw [← quickest] at late
    obtain ⟨rfl, missing⟩ := silent fun o first => by
      rw [limit]
      exact Nat.add_le_add_left (late o first) _
    rw [missing]

/-- An exchange with one recipient waits for its quickest reply. -/
theorem dispatch_of_one (timeout : Span) {request : Request} (network : w.transport = .network n)
    (online : n.offline = false) (scripted : n.registry = Registry.scripted scripts)
    (registered : scripts.get? r = some rules)
    (accepted : dispatchRefusal? r request = none) :
    (∀ o ∈ quickest? scripts r, o.delay ≤ timeout.millis →
        (d.dispatch timeout r request w).1 = o.body.classify.mapError Error.remote) ∧
      ((∀ o ∈ quickest? scripts r, timeout.millis < o.delay) →
        ∃ what, (d.dispatch timeout r request w).1 = .error (.timeout what)) := by
  have answer : (w.transport.answer? r request).1 =
      (quickest? scripts r).map fun o => (o.delay, .ok o.body) := by
    rw [network]
    simp only [Transport.answer?, Network.answer?, online, scripted, Registry.get?_scripted,
      registered]
    show (((Participant.scripted rules).answers _).head?.map _) = _
    rw [head?_answers_scripted registered _ rfl]
  rw [d.dispatch_result timeout w accepted, answer]
  refine ⟨fun o first inTime => ?_, fun late => ?_⟩
  · rw [Option.mem_def.1 first]
    exact congrArg (exchangeResult r timeout) (if_pos inTime)
  · cases quickest : quickest? scripts r with
    | none => exact ⟨_, rfl⟩
    | some o =>
      refine ⟨_, congrArg (exchangeResult r timeout) (if_neg ?_)⟩
      exact Nat.not_le.2 (late o quickest)

/--
An exchange with a scripted participant of an online network and a broadcast to it alone, over a
store that takes no time, when none of its answers takes just as long as both may take: what the
exchange returns, its failure and its timeout are what the broadcast lists as answered, failed and
missing. What the participant or others pass on makes no difference.
-/
theorem dispatch_agrees_with_broadcast {v : World} {timeout : Span} {request : Request}
    (network : w.transport = .network n) (network' : v.transport = .network n)
    (online : n.offline = false) (scripted : n.registry = Registry.scripted scripts)
    (registered : scripts.get? r = some rules) (named : r.isBlank = false)
    (something : request.payload.isEmptyPayload = false) (positive : 0 < timeout.millis)
    (apart : ∀ rule ∈ rules, rule.trigger.meets none = true → rule.outbound.delay ≠ timeout.millis)
    (prompt : c.recorder.IsPrompt w.journal) (patient : 0 < w.patience) :
    ∃ o, (c.broadcast [r] request.payload timeout.millis w).1 = .ok o ∧
      o.Agrees r (d.dispatch timeout r request v).1 := by
  have accepted : broadcastRefusal? [r] request.payload timeout.millis = none := by
    have zero : timeout.millis ≠ 0 := Nat.ne_of_gt positive
    simp [broadcastRefusal?, named, something, zero]
  have accepted' : dispatchRefusal? r request = none := by
    simp [dispatchRefusal?, Request.hasEmptyPayload, named, something]
  obtain ⟨id, listed, absent⟩ :=
    c.broadcast_of_one network online scripted registered prompt patient accepted
  obtain ⟨answered, late⟩ := d.dispatch_of_one timeout network' online scripted registered accepted'
  by_cases quick : ∃ o ∈ quickest? scripts r, o.delay < timeout.millis
  · obtain ⟨o, first, soon⟩ := quick
    refine ⟨_, listed o first soon, ?_⟩
    rw [answered o first (Nat.le_of_lt soon)]
    exact BroadcastOutcome.agrees_of_report id r o.body.classify
  · have slow : ∀ o ∈ quickest? scripts r, timeout.millis < o.delay := by
      intro o first
      obtain ⟨rule, listed, asked, rfl⟩ := exists_rule_of_quickest registered first
      have different := apart rule listed asked
      have notSoon : ¬ rule.outbound.delay < timeout.millis := fun soon => quick ⟨_, first, soon⟩
      omega
    obtain ⟨what, silent⟩ := late slow
    refine ⟨_, absent fun o first => Nat.le_of_lt (slow o first), ?_⟩
    rw [silent]
    exact BroadcastOutcome.agrees_of_silence id r what

end Coordinator

end

def World.echoRehearsal : World :=
  { rehearsal [] with
    transport := .network ⟨Registry.scripted Surfacing.rehearsal, false, 0, [], fun _ => ⟨0, 0⟩⟩
    patience := 1 }

namespace Coordinator

/-- A participant that is busy, and passes that on, fails an exchange and a broadcast alike. -/
theorem dispatch_agrees_with_broadcast_rehearsal :
    ∃ o, (rehearsal.broadcast [⟨"bob"⟩] (.string "hi") (Span.ofMillis 5).millis
        World.echoRehearsal).1 = .ok o ∧
      (rehearsal.dispatch (Span.ofMillis 5) ⟨"bob"⟩ ⟨⟨"r"⟩, .string "hi"⟩
        World.echoRehearsal).1 = .error (.remote ⟨.remoteRejected, "busy"⟩) ∧
      o.failed.entries = [(⟨"bob"⟩, ⟨.remoteRejected, "busy"⟩)] := by
  have prompt : rehearsal.recorder.IsPrompt World.echoRehearsal.journal := by
    intro d member
    cases member
  have network : World.echoRehearsal.transport =
      .network ⟨Registry.scripted Surfacing.rehearsal, false, 0, [], fun _ => ⟨0, 0⟩⟩ := rfl
  have scripted :
      (Network.mk (Registry.scripted Surfacing.rehearsal) false 0 [] fun _ => ⟨0, 0⟩).registry =
        Registry.scripted Surfacing.rehearsal := rfl
  have named : RecipientId.isBlank ⟨"bob"⟩ = false := by decide
  have something : Json.isEmptyPayload (Request.payload ⟨⟨"r"⟩, .string "hi"⟩) = false := by decide
  have positive : 0 < (Span.ofMillis 5).millis := by decide
  obtain ⟨o, done, agrees⟩ := rehearsal.dispatch_agrees_with_broadcast rehearsal network network rfl
    scripted rfl named something positive (by decide) prompt (by decide)
  have quickest : quickest? Surfacing.rehearsal ⟨"bob"⟩ =
      some ⟨.rejected "busy", [⟨"alice"⟩, ⟨"nobody"⟩], 1⟩ := by
    rfl
  have accepted : dispatchRefusal? ⟨"bob"⟩ ⟨⟨"r"⟩, .string "hi"⟩ = none := by decide
  obtain ⟨answered, -⟩ :=
    rehearsal.dispatch_of_one (Span.ofMillis 5) network rfl scripted rfl accepted
  have failed := answered _ quickest (by decide)
  exact ⟨o, done, failed, (agrees.failed _).1 failed⟩

end Coordinator

end RollCall
