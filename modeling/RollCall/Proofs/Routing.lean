import Mathlib.Data.List.TakeWhile
import RollCall.Proofs.Arrivals
import RollCall.Proofs.Generations

set_option autoImplicit false

/-!
The tasks of a channel bring exactly the messages that arise from the request that was published,
each once and in the order of their times. What has surfaced and what arises from the messages that
tasks still hold back are always the same messages together.
-/
namespace RollCall

def Arrival.surfacing (a : Arrival) : Surfacing := ⟨a.moment.ms, a.message⟩

namespace Outbound

theorem delay_le_trans (a b c : Outbound) (first : decide (a.delay ≤ b.delay) = true)
    (second : decide (b.delay ≤ c.delay) = true) : decide (a.delay ≤ c.delay) = true := by
  simp only [decide_eq_true_eq] at first second ⊢
  exact Nat.le_trans first second

theorem delay_le_total (a b : Outbound) :
    (decide (a.delay ≤ b.delay) || decide (b.delay ≤ a.delay)) = true := by
  simp only [Bool.or_eq_true, decide_eq_true_eq]
  exact Nat.le_total a.delay b.delay

end Outbound

theorem Participant.pairwise_answers (p : Participant) (m : Inbound) :
    (p.answers m).Pairwise fun a b => a.delay ≤ b.delay :=
  (List.pairwise_mergeSort Outbound.delay_le_trans Outbound.delay_le_total (p m)).imp
    fun le => of_decide_eq_true le

namespace Task

variable {t : Task}

def isDue (t : Task) (moment : Moment) (o : Outbound) : Bool := t.received + o.delay ≤ moment.ms

/-- The task waits for the first of the answers that are left, if any. -/
def postponed (t : Task) : List Outbound → List Task
  | [] => []
  | o :: rest => [{ t with due := Moment.start (t.received + o.delay), outbounds := o :: rest }]

def surfacing (t : Task) (o : Outbound) : Surfacing :=
  ⟨t.received + o.delay, ⟨t.owner, o.body, o.forwardTo⟩⟩

def surfacings (t : Task) : List Surfacing := t.outbounds.map t.surfacing

/-- The answers are in the order of their times, and the task runs before all of them are over. -/
structure Punctual (t : Task) : Prop where
  sorted : t.outbounds.Pairwise fun a b => a.delay ≤ b.delay
  ahead : ∀ o ∈ t.outbounds, t.due.ms ≤ t.received + o.delay

/-- What a task gives out surfaces at its time. -/
theorem Punctual.ms_of_given (punctual : t.Punctual) :
    ∀ o ∈ t.outbounds.takeWhile (t.isDue t.due), t.received + o.delay = t.due.ms := by
  intro o member
  have due : t.isDue t.due o = true := List.mem_takeWhile_imp member
  have present : o ∈ t.outbounds := (List.takeWhile_prefix _).subset member
  exact Nat.le_antisymm (of_decide_eq_true due) (punctual.ahead o present)

theorem surfacings_postponed (t : Task) (outbounds : List Outbound) :
    (t.postponed outbounds).flatMap surfacings = outbounds.map t.surfacing := by
  cases outbounds with
  | nil => rfl
  | cons o rest => exact List.flatMap_singleton _ _

theorem Punctual.postponed (punctual : t.Punctual) :
    ∀ u ∈ t.postponed (t.outbounds.dropWhile (t.isDue t.due)),
      u.Punctual ∧ t.due.ms ≤ u.due.ms := by
  have sorted := punctual.sorted.sublist (List.dropWhile_sublist (t.isDue t.due))
  cases left : t.outbounds.dropWhile (t.isDue t.due) with
  | nil => exact fun u member => (List.not_mem_nil member).elim
  | cons o rest =>
    rw [left] at sorted
    intro u member
    cases List.mem_singleton.1 member
    refine ⟨⟨sorted, ?_⟩, ?_⟩
    · intro p later
      show t.received + o.delay ≤ t.received + p.delay
      rcases List.mem_cons.1 later with rfl | later
      · exact Nat.le_refl _
      · exact Nat.add_le_add_left ((List.pairwise_cons.1 sorted).1 p later) _
    · have present : o ∈ t.outbounds :=
        (List.dropWhile_sublist (t.isDue t.due)).subset (left ▸ List.mem_cons_self)
      exact punctual.ahead o present

end Task

namespace Hub

variable {registry : Registry} {moment bound : Moment} {h h' : Hub} {t : Task}

theorem not_before_trans {a b c : Moment} (first : a.before b = false)
    (second : b.before c = false) : a.before c = false := by
  simp only [Bool.eq_false_iff, ne_eq, Moment.before_iff] at first second ⊢
  omega

theorem ms_le_of_not_before {a b : Moment} (later : a.before b = false) : b.ms ≤ a.ms := by
  simp only [Bool.eq_false_iff, ne_eq, Moment.before_iff] at later
  omega

theorem before_of_not_before {a b c : Moment} (first : a.before b = true)
    (second : c.before b = false) : a.before c = true := by
  simp only [Bool.eq_false_iff, ne_eq, Moment.before_iff] at first second ⊢
  omega

theorem not_before_of_before {a b : Moment} (earlier : a.before b = true) :
    b.before a = false := by
  simp only [Bool.eq_false_iff, ne_eq, Moment.before_iff] at earlier ⊢
  omega

theorem not_before_of_earliest? {tasks others : List Task}
    (first : earliest? tasks = some (t, others)) : ∀ u ∈ others, u.due.before t.due = false := by
  induction tasks generalizing t others with
  | nil => cases first
  | cons u rest ih =>
    rw [earliest?] at first
    cases later : earliest? rest with
    | none =>
      rw [later] at first
      cases first
      cases rest with
      | nil => exact fun v member => (List.not_mem_nil member).elim
      | cons v rest =>
        rw [earliest?] at later
        split at later
        · cases later
        · split at later <;> cases later
    | some found =>
      obtain ⟨v, left⟩ := found
      have earliest := ih later
      rw [later] at first
      dsimp only at first
      split at first
      · rename_i earlier
        cases first
        intro w member
        rcases List.mem_cons.1 member with rfl | member
        · exact not_before_of_before earlier
        · exact earliest w member
      · rename_i notEarlier
        cases first
        have notBefore : v.due.before u.due = false := Bool.eq_false_iff.2 notEarlier
        intro w member
        rcases List.mem_cons.1 ((perm_of_earliest? later).mem_iff.2 member) with rfl | member
        · exact notBefore
        · exact not_before_trans (earliest w member) notBefore

theorem earliest?_eq_none {tasks : List Task} (none : earliest? tasks = none) : tasks = [] := by
  cases tasks with
  | nil => rfl
  | cons t rest =>
    rw [earliest?] at none
    split at none
    · cases none
    · split at none <;> cases none

def tasks (h : Hub) : List Task := h.waiting ++ h.fresh

theorem tasks_of_next?_none (none : h.next? = none) : h.tasks = [] := by
  unfold next? at none
  split at none
  · split at none <;> cases none
  · cases none
  · cases none
  · rename_i waits new
    rw [tasks, earliest?_eq_none waits, earliest?_eq_none new]
    rfl

theorem perm_of_next? (next : h.next? = some (t, h')) : (t :: h'.tasks).Perm h.tasks := by
  rcases next?_cases next with ⟨waiting, perm, rfl⟩ | ⟨fresh, perm, rfl⟩
  · exact List.Perm.append_right h.fresh perm
  · exact List.perm_middle.symm.trans (List.Perm.append_left h.waiting perm)

theorem inbox_of_next? (next : h.next? = some (t, h')) : h'.inbox = h.inbox := by
  rcases next?_cases next with ⟨_, -, rfl⟩ | ⟨_, -, rfl⟩
  · rfl
  · rfl

/-- The next task is the earliest of those that wait, or a new one that is due before all of
them. -/
theorem next?_earliest (next : h.next? = some (t, h')) :
    (∃ waiting, earliest? h.waiting = some (t, waiting) ∧ h' = { h with waiting := waiting } ∧
        ∀ u ∈ h.fresh, u.due.before t.due = false) ∨
      ∃ fresh, earliest? h.fresh = some (t, fresh) ∧ h' = { h with fresh := fresh } ∧
        ∀ u ∈ h.waiting, t.due.before u.due = true := by
  unfold next? at next
  split at next
  · rename_i w waiting f fresh waits new
    split at next
    · rename_i earlier
      cases next
      refine Or.inr ⟨fresh, new, rfl, fun u member => ?_⟩
      rcases List.mem_cons.1 ((perm_of_earliest? waits).mem_iff.2 member) with rfl | member
      · exact earlier
      · exact before_of_not_before earlier (not_before_of_earliest? waits u member)
    · rename_i notEarlier
      cases next
      have order : f.due.before t.due = false := Bool.eq_false_iff.2 notEarlier
      refine Or.inl ⟨waiting, waits, rfl, fun u member => ?_⟩
      rcases List.mem_cons.1 ((perm_of_earliest? new).mem_iff.2 member) with rfl | member
      · exact order
      · exact not_before_trans (not_before_of_earliest? new u member) order
  · rename_i w waiting waits new
    cases next
    refine Or.inl ⟨waiting, waits, rfl, ?_⟩
    rw [earliest?_eq_none new]
    exact fun u member => absurd member List.not_mem_nil
  · rename_i f fresh waits new
    cases next
    refine Or.inr ⟨fresh, new, rfl, ?_⟩
    rw [earliest?_eq_none waits]
    exact fun u member => absurd member List.not_mem_nil
  · cases next

theorem not_before_of_next? (next : h.next? = some (t, h')) :
    ∀ u ∈ h.tasks, u.due.before t.due = false := by
  intro u member
  rcases next?_earliest next with ⟨waiting, first, -, order⟩ | ⟨fresh, first, -, order⟩
  · rcases List.mem_append.1 member with waits | new
    · rcases List.mem_cons.1 ((perm_of_earliest? first).mem_iff.2 waits) with rfl | later
      · exact Moment.not_before_self _
      · exact not_before_of_earliest? first u later
    · exact order u new
  · rcases List.mem_append.1 member with waits | new
    · exact not_before_of_before (order u waits)
    · rcases List.mem_cons.1 ((perm_of_earliest? first).mem_iff.2 new) with rfl | later
      · exact Moment.not_before_self _
      · exact not_before_of_earliest? first u later

theorem ms_le_of_next? (next : h.next? = some (t, h')) : ∀ u ∈ h'.tasks, t.due.ms ≤ u.due.ms := by
  intro u member
  have present := (perm_of_next? next).mem_iff.1 (List.mem_cons_of_mem t member)
  exact ms_le_of_not_before (not_before_of_next? next u present)

theorem act_eq (registry : Registry) (moment : Moment) (t : Task) (outbounds : List Outbound)
    {h : Hub} (isOpen : h.closed = false) :
    act registry moment t outbounds h =
      { h with
        inbox := h.inbox ++ (outbounds.takeWhile (t.isDue moment)).map fun o =>
          ⟨moment, ⟨t.owner, o.body, o.forwardTo⟩⟩
        fresh := h.fresh ++ (outbounds.takeWhile (t.isDue moment)).flatMap fun o =>
          started registry moment ⟨t.requestId, some t.owner, o.body⟩ o.forwardTo
        waiting := h.waiting ++ t.postponed (outbounds.dropWhile (t.isDue moment)) } := by
  induction outbounds generalizing h with
  | nil => simp [act, Task.postponed]
  | cons o rest ih =>
    by_cases due : t.received + o.delay ≤ moment.ms
    · have isDue : t.isDue moment o = true := decide_eq_true due
      rw [act_of_due isOpen due, List.takeWhile_cons_of_pos isDue, List.dropWhile_cons_of_pos isDue,
        ih (by exact isOpen)]
      simp
    · have notDue : ¬ t.isDue moment o = true := by simpa [Task.isDue] using due
      rw [act, if_neg due, List.takeWhile_cons_of_neg notDue, List.dropWhile_cons_of_neg notDue]
      simp [Task.postponed]

/-- A new task is punctual and due at once. -/
theorem punctual_started (registry : Registry) (moment : Moment) (m : Inbound)
    (targets : List RecipientId) :
    ∀ u ∈ started registry moment m targets, u.Punctual ∧ u.due = moment := by
  intro u member
  obtain ⟨r, -, found⟩ := List.mem_filterMap.1 member
  obtain ⟨p, -, rfl⟩ := Option.map_eq_some_iff.1 found
  exact ⟨⟨p.pairwise_answers m, fun o _ => Nat.le_add_right _ _⟩, rfl⟩

def surfaced (h : Hub) : List Surfacing := h.inbox.map Arrival.surfacing

def held (h : Hub) : List Surfacing := h.tasks.flatMap Task.surfacings

/-- The answers that a task gives out when it runs. -/
def given (t : Task) : List Surfacing := (t.outbounds.takeWhile (t.isDue t.due)).map t.surfacing

theorem surfacings_eq_given_append (t : Task) :
    t.surfacings = given t ++ (t.outbounds.dropWhile (t.isDue t.due)).map t.surfacing := by
  rw [given, ← List.map_append, List.takeWhile_append_dropWhile]
  rfl

/-- The tasks that a task starts when it runs. -/
def successors (registry : Registry) (t : Task) : List Task :=
  (t.outbounds.takeWhile (t.isDue t.due)).flatMap fun o =>
    started registry t.due ⟨t.requestId, some t.owner, o.body⟩ o.forwardTo

theorem ms_of_mem_given (punctual : t.Punctual) : ∀ s ∈ given t, s.ms = t.due.ms := by
  intro s member
  obtain ⟨o, due, rfl⟩ := List.mem_map.1 member
  exact punctual.ms_of_given o due

theorem surfaced_act (registry : Registry) (punctual : t.Punctual) (isOpen : h.closed = false) :
    (act registry t.due t t.outbounds h).surfaced = h.surfaced ++ given t := by
  rw [act_eq _ _ _ _ isOpen, surfaced, List.map_append, List.map_map, given]
  congr 1
  refine List.map_congr_left fun o member => ?_
  show (⟨t.due.ms, _⟩ : Surfacing) = ⟨t.received + o.delay, _⟩
  rw [punctual.ms_of_given o member]

theorem tasks_act (registry : Registry) (t : Task) (isOpen : h.closed = false) :
    (act registry t.due t t.outbounds h).tasks.Perm
      (t.postponed (t.outbounds.dropWhile (t.isDue t.due)) ++ successors registry t ++
        h.tasks) := by
  rw [act_eq _ _ _ _ isOpen]
  show ((h.waiting ++ t.postponed _) ++ (h.fresh ++ successors registry t)).Perm _
  rw [tasks, List.append_assoc, List.append_assoc]
  refine (List.perm_append_comm_assoc _ _ _).trans (List.Perm.append_left _ ?_)
  rw [← List.append_assoc]
  exact List.perm_append_comm

/--
What has surfaced did so in the order of time until a millisecond, and everything that is to come
has its time from then on.
-/
structure Paced (floor : Nat) (h : Hub) : Prop where
  isOpen : h.closed = false
  punctual : ∀ t ∈ h.tasks, t.Punctual
  ahead : ∀ t ∈ h.tasks, floor ≤ t.due.ms
  past : ∀ s ∈ h.surfaced, s.ms ≤ floor
  sorted : h.surfaced.Pairwise fun a b => a.ms ≤ b.ms

variable {floor : Nat}

theorem Paced.step (paced : h.Paced floor) (step : h.step? registry bound = some h') :
    ∃ ms new, floor ≤ ms ∧ h'.Paced ms ∧ h'.surfaced = h.surfaced ++ new ∧
      ∀ s ∈ new, floor ≤ s.ms := by
  obtain ⟨t, rest, next, -, rfl⟩ := step?_cases step
  have perm := perm_of_next? next
  have inbox : rest.surfaced = h.surfaced := congrArg (List.map _) (inbox_of_next? next)
  have later := ms_le_of_next? next
  have punctual := paced.punctual t (perm.mem_iff.1 List.mem_cons_self)
  have onward := paced.ahead t (perm.mem_iff.1 List.mem_cons_self)
  have dated := ms_of_mem_given punctual
  have isOpen := (closed_of_next? next).trans paced.isOpen
  have surfaced := surfaced_act registry punctual isOpen
  rw [inbox] at surfaced
  have each : ∀ u ∈ (act registry t.due t t.outbounds rest).tasks,
      u.Punctual ∧ t.due.ms ≤ u.due.ms := by
    intro u member
    rcases List.mem_append.1 ((tasks_act registry t isOpen).mem_iff.1 member) with member | member
    · rcases List.mem_append.1 member with member | member
      · exact punctual.postponed u member
      · obtain ⟨o, -, member⟩ := List.mem_flatMap.1 member
        obtain ⟨new, due⟩ := punctual_started _ _ _ _ u member
        exact ⟨new, by rw [due]⟩
    · exact ⟨paced.punctual u (perm.mem_iff.1 (List.mem_cons_of_mem t member)), later u member⟩
  refine ⟨t.due.ms, given t, onward, ⟨(closed_act _ _ _ _ _).trans isOpen,
    fun u member => (each u member).1, fun u member => (each u member).2, ?_, ?_⟩, surfaced, ?_⟩
  · rw [surfaced]
    intro s member
    rcases List.mem_append.1 member with member | member
    · exact Nat.le_trans (paced.past s member) onward
    · exact Nat.le_of_eq (dated s member)
  · rw [surfaced]
    refine List.pairwise_append.2 ⟨paced.sorted, ?_, ?_⟩
    · exact List.pairwise_of_forall_mem_list fun a first b second =>
        Nat.le_of_eq ((dated a first).trans (dated b second).symm)
    · intro a first b second
      rw [dated b second]
      exact Nat.le_trans (paced.past a first) onward
  · intro s member
    rw [dated s member]
    exact onward

theorem Paced.run (paced : h.Paced floor) (registry : Registry) (bound : Moment) (count : Nat) :
    ∃ ms new, floor ≤ ms ∧ (run registry bound count h).Paced ms ∧
      (run registry bound count h).surfaced = h.surfaced ++ new ∧ ∀ s ∈ new, floor ≤ s.ms := by
  induction count generalizing floor h with
  | zero => exact ⟨floor, [], Nat.le_refl _, paced, (List.append_nil _).symm, by simp⟩
  | succ count ih =>
    rw [Hub.run]
    cases step : h.step? registry bound with
    | none => exact ⟨floor, [], Nat.le_refl _, paced, (List.append_nil _).symm, by simp⟩
    | some h' =>
      obtain ⟨ms, new, onward, still, same, dated⟩ := paced.step step
      obtain ⟨ms', new', onward', still', same', dated'⟩ := ih still
      refine ⟨ms', new ++ new', Nat.le_trans onward onward', still', ?_, ?_⟩
      · rw [← List.append_assoc, ← same]
        exact same'
      · intro s member
        rcases List.mem_append.1 member with member | member
        · exact dated s member
        · exact Nat.le_trans onward (dated' s member)

/-- On a channel where no task is due before a moment all of them wait for it. -/
theorem late_of_still {limit : Nat} (earliest : ¬ bound.before (Moment.start limit))
    (still : h.step? registry bound = none) : ∀ t ∈ h.tasks, limit ≤ t.due.ms := by
  unfold step? at still
  cases next : h.next? with
  | none =>
    rw [tasks_of_next?_none next]
    exact fun t member => (List.not_mem_nil member).elim
  | some found =>
    obtain ⟨t, rest⟩ := found
    rw [next] at still
    dsimp only at still
    split at still
    · cases still
    · rename_i late
      have first : limit ≤ t.due.ms := by
        rw [Moment.before_iff] at late earliest
        simp only [Moment.start] at earliest
        omega
      intro u member
      rcases List.mem_cons.1 ((perm_of_next? next).mem_iff.2 member) with rfl | member
      · exact first
      · exact Nat.le_trans first (ms_le_of_next? next u member)

/-- What is held back when nothing more is due before an instant surfaces from then on. -/
theorem Paced.held_late (paced : h.Paced floor) {limit : Nat}
    (still : h.step? registry (Moment.start limit) = none) : ∀ s ∈ h.held, limit ≤ s.ms := by
  have ahead := late_of_still (by rw [Moment.not_before_self]; exact Bool.false_ne_true) still
  intro s member
  obtain ⟨t, present, later⟩ := List.mem_flatMap.1 member
  obtain ⟨o, answer, rfl⟩ := List.mem_map.1 later
  exact Nat.le_trans (ahead t present) ((paced.punctual t present).ahead o answer)

variable {scripts : RecipientMap (List Rule)} {horizon n : Nat}

/-- The tasks that a message starts hold back what it makes others say. -/
theorem surfacings_started (moment : Moment) (m : Inbound) (targets : List RecipientId) :
    ((started (Registry.scripted scripts) moment m targets).flatMap Task.surfacings).Perm
      (Surfacing.spoken scripts moment.ms m.sender targets) := by
  induction targets with
  | nil => exact List.Perm.refl _
  | cons r targets ih =>
    rw [Surfacing.spoken, List.flatMap_cons]
    rw [started, List.filterMap_cons, Registry.get?_scripted]
    cases scripts.get? r with
    | none => exact ih
    | some rules =>
      refine List.Perm.append ?_ ih
      have sorted : ((Participant.scripted rules).answers m).Perm (Participant.scripted rules m) :=
        List.mergeSort_perm _ _
      refine (sorted.map _).trans ?_
      rw [Participant.scripted, List.map_map]
      exact List.Perm.refl _

def parties (messages : List Surfacing) : List RecipientId :=
  messages.flatMap fun s => s.message.sender :: s.message.addressedTo

/-- Each message that a task gives out starts at most as many tasks as it is forwarded to. -/
theorem length_successors (registry : Registry) (t : Task) :
    (successors registry t).length + (given t).length ≤ (parties (given t)).length := by
  rw [successors, parties, given]
  induction t.outbounds.takeWhile (t.isDue t.due) with
  | nil => exact Nat.le_refl _
  | cons o rest ih =>
    have few : (started registry t.due ⟨t.requestId, some t.owner, o.body⟩ o.forwardTo).length ≤
        o.forwardTo.length := List.length_filterMap_le _ _
    simp only [List.flatMap_cons, List.length_append, List.map_cons, List.length_cons] at ih ⊢
    show _ ≤ o.forwardTo.length + 1 + _
    omega

/-- What a task gives out is replaced by what it makes others say. -/
theorem held_act (scripts : RecipientMap (List Rule)) (punctual : t.Punctual)
    (isOpen : h.closed = false) :
    (act (Registry.scripted scripts) t.due t t.outbounds h).held.Perm
      ((given t).flatMap (Surfacing.forwarded scripts) ++
        ((t.outbounds.dropWhile (t.isDue t.due)).map t.surfacing ++ h.held)) := by
  have said : ((successors (Registry.scripted scripts) t).flatMap Task.surfacings).Perm
      ((given t).flatMap (Surfacing.forwarded scripts)) := by
    rw [successors, given, List.flatMap_assoc, List.flatMap_map]
    refine List.Perm.flatMap_left _ fun o member => ?_
    rw [Surfacing.forwarded]
    have ms : (t.surfacing o).ms = t.due.ms := punctual.ms_of_given o member
    rw [ms]
    exact surfacings_started _ _ _
  refine ((tasks_act _ t isOpen).flatMap_right _).trans ?_
  rw [List.flatMap_append, List.flatMap_append, Task.surfacings_postponed, List.append_assoc]
  refine (List.perm_append_comm_assoc _ _ _).trans ?_
  exact List.Perm.append_right _ said

theorem held_of_next? (next : h.next? = some (t, h')) :
    h.held.Perm (given t ++
      ((t.outbounds.dropWhile (t.isDue t.due)).map t.surfacing ++ h'.held)) := by
  refine ((perm_of_next? next).symm.flatMap_right _).trans ?_
  rw [List.flatMap_cons, surfacings_eq_given_append, List.append_assoc]
  exact List.Perm.refl _

/-- How many tasks can still run: those that are new and those that messages to come start. -/
def work (scripts : RecipientMap (List Rule)) (horizon n : Nat) (h : Hub) : Nat :=
  (parties (Surfacing.arising scripts horizon h.held n)).length + h.fresh.length

/--
A step moves messages from those that are to come to those that have surfaced, and leaves less to
do.
-/
theorem Paced.balance (paced : h.Paced floor) (sound : h.Sound horizon)
    (extinct : Surfacing.Extinct scripts horizon h.held n)
    (step : h.step? (Registry.scripted scripts) (Moment.start horizon) = some h') :
    Surfacing.Extinct scripts horizon h'.held n ∧
      (h'.surfaced ++ Surfacing.arising scripts horizon h'.held n).Perm
        (h.surfaced ++ Surfacing.arising scripts horizon h.held n) ∧
      h'.work scripts horizon n < h.work scripts horizon n := by
  obtain ⟨t, rest, next, due, rfl⟩ := step?_cases step
  have member := (perm_of_next? next).mem_iff.1 List.mem_cons_self
  have punctual := paced.punctual t member
  have early : ∀ s ∈ given t, s.ms < horizon := by
    intro s member
    rw [ms_of_mem_given punctual s member]
    exact Moment.before_start_iff.1 due
  have isOpen := (closed_of_next? next).trans paced.isOpen
  have after := held_act scripts punctual isOpen
  generalize left : (t.outbounds.dropWhile (t.isDue t.due)).map t.surfacing ++ rest.held = others
    at after
  have before : h.held.Perm (given t ++ others) := left ▸ held_of_next? next
  obtain ⟨here, there⟩ := Surfacing.extinct_append_iff.1 (extinct.perm before)
  have moved : (Surfacing.arising scripts horizon h.held n).Perm (given t ++
      Surfacing.arising scripts horizon
        (act (Registry.scripted scripts) t.due t t.outbounds rest).held n) :=
    ((Surfacing.arising_perm before n).trans (Surfacing.arising_surfaced early here)).trans
      (List.Perm.append_left _ (Surfacing.arising_perm after.symm n))
  have inbox : rest.surfaced = h.surfaced := congrArg (List.map _) (inbox_of_next? next)
  refine ⟨(Surfacing.extinct_append_iff.2 ⟨here.forwarded, there⟩).perm after.symm, ?_, ?_⟩
  · rw [surfaced_act _ punctual isOpen, inbox, List.append_assoc]
    exact List.Perm.append_left _ moved.symm
  · have total : (parties (Surfacing.arising scripts horizon h.held n)).length =
        (parties (given t)).length + (parties (Surfacing.arising scripts horizon
          (act (Registry.scripted scripts) t.due t t.outbounds rest).held n)).length := by
      rw [← List.length_append, parties, parties, parties, ← List.flatMap_append]
      exact (moved.flatMap_right _).length_eq
    have added : (act (Registry.scripted scripts) t.due t t.outbounds rest).fresh.length =
        rest.fresh.length + (successors (Registry.scripted scripts) t).length := by
      rw [act_eq _ _ _ _ isOpen]
      exact List.length_append
    have few := length_successors (Registry.scripted scripts) t
    -- a task that waited gives out a message, and a new one is new no more
    have progress : rest.fresh.length < h.fresh.length + (given t).length := by
      rcases next?_cases next with ⟨waiting, perm, rfl⟩ | ⟨fresh, perm, rfl⟩
      · obtain ⟨o, later, outbounds, now⟩ :=
          sound.waiting t (perm.mem_iff.1 List.mem_cons_self)
        have isDue : t.isDue t.due o = true := decide_eq_true now
        rw [given, outbounds, List.takeWhile_cons_of_pos isDue]
        exact Nat.lt_add_of_pos_right (Nat.succ_pos _)
      · have length := perm.length_eq
        rw [List.length_cons] at length
        show fresh.length < _
        omega
    rw [work, work, total, added]
    omega

theorem exists_still (paced : h.Paced floor) (sound : h.Sound horizon)
    (extinct : Surfacing.Extinct scripts horizon h.held n) :
    ∃ count, (run (Registry.scripted scripts) (Moment.start horizon) count h).step?
        (Registry.scripted scripts) (Moment.start horizon) = none ∧
      (run (Registry.scripted scripts) (Moment.start horizon) count h).surfaced.Perm
        (h.surfaced ++ Surfacing.arising scripts horizon h.held n) := by
  induction amount : h.work scripts horizon n using Nat.strong_induction_on
    generalizing h floor with
  | _ amount ih =>
    cases step : h.step? (Registry.scripted scripts) (Moment.start horizon) with
    | none =>
      have late := paced.held_late step
      refine ⟨0, step, ?_⟩
      rw [Surfacing.arising_of_late late, List.append_nil]
      exact List.Perm.refl _
    | some h' =>
      obtain ⟨extinctLater, balance, less⟩ := paced.balance sound extinct step
      obtain ⟨ms, -, -, still, -⟩ := paced.step step
      obtain ⟨count, done, perm⟩ := ih _ (amount ▸ less) still
        (sound.step (within_start horizon) step) extinctLater rfl
      refine ⟨count + 1, ?_, ?_⟩
      · rw [run, step]
        exact done
      · rw [run, step]
        exact perm.trans balance

end Hub

end RollCall
