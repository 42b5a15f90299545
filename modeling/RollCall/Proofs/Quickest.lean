import Mathlib.Data.List.MinMax
import Mathlib.Data.List.Nodup
import RollCall.Proofs.Handouts

set_option autoImplicit false

/-!
The quickest answer of each participant who forwards nothing. Whoever is asked once has one task, so
that the answers of a participant surface in their own order, whatever the others do; the first of
them is the one of the least delay.
-/
namespace RollCall

namespace Surfacing

variable (scripts : RecipientMap (List Rule))

def ForwardsNothing : Prop :=
  ∀ r rules, scripts.get? r = some rules → ∀ rule ∈ rules, rule.outbound.forwardTo = []

/-- What a recipient answers a coordinator with; one that is not registered stays silent. -/
def replies (r : RecipientId) : List Outbound :=
  (((scripts.get? r).getD []).filter fun rule => rule.trigger.meets none).map Rule.outbound

/-- The reply that is given out first: of those of the least delay the first that is listed. -/
def quickest? (r : RecipientId) : Option Outbound := (replies scripts r).argmin Outbound.delay

def ofReply (ms : Nat) (r : RecipientId) (o : Outbound) : Surfacing :=
  ⟨ms + o.delay, ⟨r, o.body, o.forwardTo⟩⟩

variable {scripts}

theorem forwardTo_of_mem_replies (forwardless : ForwardsNothing scripts) {r : RecipientId} :
    ∀ o ∈ replies scripts r, o.forwardTo = [] := by
  intro o member
  obtain ⟨rule, met, rfl⟩ := List.mem_map.1 member
  have listed := (List.mem_filter.1 met).1
  cases registered : scripts.get? r with
  | none => simp [registered] at listed
  | some rules =>
    rw [registered] at listed
    exact forwardless r rules registered rule listed

theorem spoken_eq_replies (ms : Nat) (members : List RecipientId) :
    spoken scripts ms none members =
      members.flatMap fun r => (replies scripts r).map (ofReply ms r) := by
  simp only [spoken, replies, List.map_map]
  rfl

/-- Without forwarding there is one generation of messages. -/
theorem extinct_of_forwardless (forwardless : ForwardsNothing scripts) (ms horizon : Nat)
    (members : List RecipientId) : Extinct scripts horizon (spoken scripts ms none members) 1 := by
  intro s later
  obtain ⟨origin, said, answer⟩ := List.mem_flatMap.1 later
  rw [generation, spoken_eq_replies] at said
  obtain ⟨r, -, said⟩ := List.mem_flatMap.1 said
  obtain ⟨o, reply, rfl⟩ := List.mem_map.1 said
  rw [forwarded, ofReply, forwardTo_of_mem_replies forwardless o reply] at answer
  exact (List.not_mem_nil answer).elim

theorem length_spoken (ms : Nat) (members : List RecipientId) :
    (spoken scripts ms none members).length = (members.flatMap (replies scripts)).length := by
  have bodies : (spoken scripts ms none members).map (fun s => s.message.body) =
      (members.flatMap (replies scripts)).map Outbound.body := by
    rw [spoken_eq_replies, List.map_flatMap, List.map_flatMap]
    simp only [List.map_map]
    rfl
  simpa only [List.length_map] using congrArg List.length bodies

end Surfacing

/-- The answers are given out from the quickest on. -/
theorem Participant.head?_answers (p : Participant) (m : Inbound) :
    (p.answers m).head? = (p m).argmin Outbound.delay := by
  show ((p m).mergeSort fun a b => decide (a.delay ≤ b.delay)).head? = _
  induction p m with
  | nil =>
    rw [List.mergeSort_nil]
    rfl
  | cons o rest ih =>
    obtain ⟨before, after, sorted, others, quicker⟩ :=
      List.mergeSort_cons Outbound.delay_le_trans Outbound.delay_le_total o rest
    have order :=
      List.pairwise_mergeSort Outbound.delay_le_trans Outbound.delay_le_total (o :: rest)
    rw [List.argmin_cons, ← ih, others]
    rw [sorted] at order ⊢
    -- what stands before the first reply is strictly quicker, because the sort is stable
    cases before with
    | nil =>
      cases after with
      | nil => rfl
      | cons q after =>
        have first : o.delay ≤ q.delay :=
          of_decide_eq_true ((List.pairwise_cons.1 order).1 q List.mem_cons_self)
        exact (if_neg (Nat.not_lt.2 first)).symm
    | cons q before =>
      have first : q.delay < o.delay := by
        simpa using quicker q List.mem_cons_self
      exact (if_pos first).symm

namespace Hub

variable {registry : Registry} {bound : Moment} {h h' : Hub} {t : Task} {floor : Nat}

/-- No task forwards anything, and no participant has two. -/
structure Quiet (h : Hub) : Prop where
  once : (h.tasks.map Task.owner).Nodup
  silent : ∀ t ∈ h.tasks, ∀ o ∈ t.outbounds, o.forwardTo = []

/-- What of a participant has surfaced and what its tasks hold back. -/
def line (r : RecipientId) (h : Hub) : List Surfacing :=
  (h.surfaced ++ h.held).filter fun s => s.message.sender = r

theorem filter_surfacings (ts : List Task) (r : RecipientId) :
    ((ts.flatMap Task.surfacings).filter fun s => s.message.sender = r) =
      (ts.filter fun t => t.owner = r).flatMap Task.surfacings := by
  induction ts with
  | nil => rfl
  | cons t ts ih =>
    rw [List.flatMap_cons, List.filter_append, ih]
    by_cases own : t.owner = r
    · have all : (t.surfacings.filter fun s => s.message.sender = r) = t.surfacings := by
        refine List.filter_eq_self.2 fun s member => ?_
        obtain ⟨o, -, rfl⟩ := List.mem_map.1 member
        exact decide_eq_true own
      rw [all, List.filter_cons_of_pos (by simpa using own), List.flatMap_cons]
    · have none : (t.surfacings.filter fun s => s.message.sender = r) = [] := by
        refine List.filter_eq_nil_iff.2 fun s member => ?_
        obtain ⟨o, -, rfl⟩ := List.mem_map.1 member
        exact fun equal => own (of_decide_eq_true equal)
      rw [none, List.filter_cons_of_neg (by simpa using own), List.nil_append]

/-- The order of tasks does not matter to one who has one at most. -/
theorem filter_surfacings_of_perm {ts us : List Task} (perm : ts.Perm us)
    (once : (ts.map Task.owner).Nodup) (r : RecipientId) :
    ((ts.flatMap Task.surfacings).filter fun s => s.message.sender = r) =
      (us.flatMap Task.surfacings).filter fun s => s.message.sender = r := by
  have same := perm.filter fun t => decide (t.owner = r)
  have distinct : ((ts.filter fun t => decide (t.owner = r)).map Task.owner).Nodup :=
    once.sublist (List.filter_sublist.map Task.owner)
  have own : ∀ t ∈ ts.filter (fun t => decide (t.owner = r)), t.owner = r :=
    fun t member => of_decide_eq_true (List.mem_filter.1 member).2
  rw [filter_surfacings, filter_surfacings]
  congr 1
  -- a permutation of at most one task changes nothing
  generalize (ts.filter fun t => decide (t.owner = r)) = kept at same distinct own ⊢
  match kept with
  | [] => exact (List.nil_perm.1 same).symm
  | [t] => exact List.singleton_perm.1 same
  | t :: u :: rest =>
    have fresh := (List.nodup_cons.1 distinct).1
    have equal : t.owner = u.owner :=
      (own t List.mem_cons_self).trans (own u (List.mem_cons_of_mem _ List.mem_cons_self)).symm
    exact (fresh (equal ▸ List.mem_cons_self)).elim

/-- What is forwarded to nobody starts no task. -/
theorem successors_of_silent (silent : ∀ o ∈ t.outbounds, o.forwardTo = []) :
    successors registry t = [] := by
  refine List.flatMap_eq_nil_iff.2 fun o member => ?_
  rw [silent o ((List.takeWhile_prefix _).subset member)]
  rfl

theorem owner_postponed (t : Task) (outbounds : List Outbound) :
    ((t.postponed outbounds).map Task.owner).Sublist [t.owner] := by
  cases outbounds with
  | nil => exact List.nil_sublist _
  | cons o rest => exact List.Sublist.refl _

theorem outbounds_of_mem_postponed {u : Task} {outbounds : List Outbound}
    (member : u ∈ t.postponed outbounds) : u.outbounds = outbounds := by
  cases outbounds with
  | nil => exact (List.not_mem_nil member).elim
  | cons o rest =>
    cases List.mem_singleton.1 member
    rfl

/-- What one task gives out moves from what is held back to what has surfaced. -/
theorem Quiet.step (quiet : h.Quiet) (paced : h.Paced floor)
    (step : h.step? registry bound = some h') : h'.Quiet ∧ ∀ r, h'.line r = h.line r := by
  obtain ⟨t, rest, next, -, rfl⟩ := step?_cases step
  have perm := perm_of_next? next
  have punctual := paced.punctual t (perm.mem_iff.1 List.mem_cons_self)
  have silent := quiet.silent t (perm.mem_iff.1 List.mem_cons_self)
  have isOpen := (closed_of_next? next).trans paced.isOpen
  have after := tasks_act registry t isOpen
  rw [successors_of_silent silent, List.append_nil] at after
  have onceBefore : ((t :: rest.tasks).map Task.owner).Nodup :=
    (perm.map Task.owner).nodup_iff.2 quiet.once
  have once : ((t.postponed (t.outbounds.dropWhile (t.isDue t.due)) ++ rest.tasks).map
      Task.owner).Nodup := by
    rw [List.map_append]
    exact onceBefore.sublist ((owner_postponed t _).append (List.Sublist.refl _))
  refine ⟨⟨(after.map Task.owner).nodup_iff.2 once, ?_⟩, ?_⟩
  · intro u member
    rcases List.mem_append.1 (after.mem_iff.1 member) with member | member
    · intro o answer
      rw [outbounds_of_mem_postponed member] at answer
      exact silent o ((List.dropWhile_sublist (t.isDue t.due)).subset answer)
    · exact quiet.silent u (perm.mem_iff.1 (List.mem_cons_of_mem t member))
  · intro r
    have inbox : rest.surfaced = h.surfaced := congrArg (List.map _) (inbox_of_next? next)
    rw [line, line, List.filter_append, List.filter_append, held, held,
      ← filter_surfacings_of_perm after.symm once, ← filter_surfacings_of_perm perm onceBefore,
      surfaced_act registry punctual isOpen, inbox, List.flatMap_append, Task.surfacings_postponed,
      List.flatMap_cons, surfacings_eq_given_append]
    simp only [List.filter_append, List.append_assoc]

theorem Quiet.run (quiet : h.Quiet) (paced : h.Paced floor) (registry : Registry) (bound : Moment)
    (count : Nat) (r : RecipientId) : (run registry bound count h).line r = h.line r := by
  induction count generalizing floor h with
  | zero => rfl
  | succ count ih =>
    rw [Hub.run]
    cases step : h.step? registry bound with
    | none => rfl
    | some h' =>
      obtain ⟨still, same⟩ := quiet.step paced step
      obtain ⟨ms, -, -, pacedStill, -⟩ := paced.step step
      exact (ih still pacedStill).trans (same r)

variable {scripts : RecipientMap (List Rule)} {members : List RecipientId} {m : Inbound}
  {moment : Moment}

theorem owner_started (registry : Registry) (moment : Moment) (m : Inbound)
    (members : List RecipientId) :
    ((started registry moment m members).map Task.owner).Sublist members := by
  induction members with
  | nil => exact List.Sublist.refl _
  | cons r members ih =>
    rw [started, List.filterMap_cons]
    cases registry.get? r with
    | none => exact ih.cons r
    | some p => exact ih.cons_cons r

/-- Whoever is asked once has the task that the name stands for, if it is registered. -/
theorem filter_owner_started (once : members.Nodup) {r : RecipientId} (listed : r ∈ members) :
    ((started registry moment m members).filter fun t => t.owner = r) =
      started registry moment m [r] := by
  have only : (members.filter fun s => s = r) = [r] := by
    rw [List.filter_eq, List.count_eq_one_of_mem once listed]
    rfl
  rw [started, started, ← only, List.filter_filterMap, List.filterMap_filter]
  refine List.filterMap_congr fun s _ => ?_
  cases registry.get? s with
  | none => simp
  | some p => simp [Option.filter]

/-- The task of one who is asked gives out the replies in the order of their delays. -/
theorem exists_surfacings_started (scripts : RecipientMap (List Rule)) (moment : Moment)
    (request : Request) (r : RecipientId) :
    ∃ os : List Outbound, os.Pairwise (fun a b => a.delay ≤ b.delay) ∧
      os.head? = Surfacing.quickest? scripts r ∧
      (started (Registry.scripted scripts) moment
        ⟨request.requestId, none, .payload request.payload⟩ [r]).flatMap Task.surfacings =
          os.map (Surfacing.ofReply moment.ms r) := by
  refine ⟨(Participant.scripted ((scripts.get? r).getD [])).answers
    ⟨request.requestId, none, .payload request.payload⟩, Participant.pairwise_answers _ _,
    Participant.head?_answers _ _, ?_⟩
  rw [started, List.filterMap_cons, Registry.get?_scripted]
  cases scripts.get? r with
  | none =>
    have nothing : (Participant.scripted []).answers
        ⟨request.requestId, none, .payload request.payload⟩ = [] := List.mergeSort_nil
    rw [Option.getD_none, nothing]
    rfl
  | some rules => exact List.flatMap_singleton _ _

theorem quiet_published (forwardless : Surfacing.ForwardsNothing scripts) (once : members.Nodup)
    (moment : Moment) (topic : String) (request : Request) :
    Quiet ((opened topic members).publish (Registry.scripted scripts) moment request) := by
  refine ⟨?_, ?_⟩
  · rw [tasks_published]
    exact once.sublist (owner_started _ _ _ members)
  · intro t member o answer
    rw [tasks_published] at member
    obtain ⟨r, -, registered⟩ := List.mem_filterMap.1 member
    rw [Registry.get?_scripted, Option.map_map] at registered
    obtain ⟨rules, found, rfl⟩ := Option.map_eq_some_iff.1 registered
    have given : o ∈ Participant.scripted rules
        ⟨request.requestId, none, .payload request.payload⟩ := List.mem_mergeSort.1 answer
    obtain ⟨rule, met, rfl⟩ := List.mem_map.1 given
    exact forwardless r rules found rule (List.mem_filter.1 met).1

/-- At first the line of a member is what its one task holds back. -/
theorem line_published (once : members.Nodup) (moment : Moment) (topic : String)
    (request : Request) {r : RecipientId} (listed : r ∈ members) :
    ((opened topic members).publish (Registry.scripted scripts) moment request).line r =
      (started (Registry.scripted scripts) moment
        ⟨request.requestId, none, .payload request.payload⟩ [r]).flatMap Task.surfacings := by
  rw [line, surfaced_published, List.nil_append, held, tasks_published, filter_surfacings,
    filter_owner_started once listed]

/-- When nothing more is due, as much of a line has surfaced as comes before the horizon. -/
theorem filter_surfaced_of_still {horizon : Nat} (paced : h.Paced floor) (sound : h.Sound horizon)
    (still : h.step? registry (Moment.start horizon) = none) (r : RecipientId) :
    (h.surfaced.filter fun s => s.message.sender = r) =
      (h.line r).filter fun s => s.ms < horizon := by
  have late := paced.held_late still
  have none : ((h.held.filter fun s => s.message.sender = r).filter fun s => s.ms < horizon) = [] :=
    Surfacing.filter_of_late fun s member => late s (List.mem_filter.1 member).1
  have all : ((h.surfaced.filter fun s => s.message.sender = r).filter fun s => s.ms < horizon) =
      h.surfaced.filter fun s => s.message.sender = r := by
    refine List.filter_eq_self.2 fun s member => ?_
    obtain ⟨a, come, rfl⟩ := List.mem_map.1 (List.mem_filter.1 member).1
    exact decide_eq_true (sound.inbox a come)
  rw [line, List.filter_append, List.filter_append, none, all, List.append_nil]

/-- If the quickest answer is too late all of them are. -/
theorem head?_filter_of_sorted {os : List Outbound}
    (sorted : os.Pairwise fun a b => a.delay ≤ b.delay) (now horizon : Nat) :
    (os.filter fun o => now + o.delay < horizon).head? =
      os.head?.filter fun o => now + o.delay < horizon := by
  cases os with
  | nil => rfl
  | cons o rest =>
    by_cases early : now + o.delay < horizon
    · rw [List.filter_cons_of_pos (by simpa using early)]
      simp [Option.filter, early]
    · have late : ((o :: rest).filter fun o => decide (now + o.delay < horizon)) = [] := by
        refine List.filter_eq_nil_iff.2 fun q member => ?_
        rcases List.mem_cons.1 member with rfl | later
        · simpa using early
        · have after := (List.pairwise_cons.1 sorted).1 q later
          simp only [decide_eq_true_eq]
          omega
      rw [late]
      simp [Option.filter, early]

/--
On a channel of participants who forward nothing each member is heard first with its quickest reply,
if that surfaces before the horizon, and is not heard at all otherwise.
-/
theorem exists_yields_quickest (forwardless : Surfacing.ForwardsNothing scripts)
    (once : members.Nodup) (topic : String) (request : Request) (clock : Clock) (horizon : Nat) :
    ∃ messages, ((opened topic members).publish (Registry.scripted scripts) clock.moment
        request).Yields (Registry.scripted scripts) horizon clock messages ∧
      messages.Pairwise (fun a b => a.ms ≤ b.ms) ∧ (∀ s ∈ messages, clock.now ≤ s.ms) ∧
      messages.length ≤ (members.flatMap (Surfacing.replies scripts)).length ∧
      ∀ r ∈ members, (messages.find? fun s => s.message.sender = r) =
        ((Surfacing.quickest? scripts r).filter fun o => clock.now + o.delay < horizon).map
          (Surfacing.ofReply clock.now r) := by
  obtain ⟨messages, yields, perm, sorted⟩ := exists_yields topic members request
    (Surfacing.extinct_of_forwardless forwardless clock.now horizon members)
  have arising : Surfacing.arising scripts horizon (Surfacing.spoken scripts clock.now none members)
      1 = (Surfacing.spoken scripts clock.now none members).filter fun s => s.ms < horizon :=
    List.flatMap_singleton _ _
  rw [arising] at perm
  refine ⟨messages, yields, sorted, ?_, ?_, fun r listed => ?_⟩
  · intro s member
    exact Surfacing.ms_le_of_mem_spoken (List.mem_filter.1 (perm.mem_iff.1 member)).1
  · rw [← Surfacing.length_spoken clock.now, perm.length_eq]
    exact List.length_filter_le _ _
  · obtain ⟨floor, paced⟩ := yields.paced
    obtain ⟨count, still, whole⟩ := yields.whole
    obtain ⟨ms, -, -, pacedLater, -⟩ := paced.run (Registry.scripted scripts)
      (Moment.start horizon) count
    have heard := filter_surfaced_of_still pacedLater
      (yields.sound.run (within_start horizon) _ count) still r
    obtain ⟨os, ordered, first, answers⟩ := exists_surfacings_started scripts clock.moment request r
    rw [(quiet_published forwardless once clock.moment topic request).run paced, whole,
      line_published once _ _ _ listed, answers, List.filter_map] at heard
    rw [← List.head?_filter, heard, List.head?_map, ← first, ← head?_filter_of_sorted ordered]
    rfl

end Hub

end RollCall
