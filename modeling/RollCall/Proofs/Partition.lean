import RollCall.Proofs.FanOut

set_option autoImplicit false

/-!
What a broadcast says of its recipients. Whatever the channel hands out and however the store
behaves, each recipient has answered, has failed or is missing, and no two of these.
-/
namespace RollCall

namespace BroadcastOutcome

variable {id : RequestId} {reports : List Resolution} {missing : List RecipientId}

theorem get?_ofReports (once : (reports.map Resolution.sender).Nodup) (r : RecipientId) :
    (∀ text, (ofReports id reports missing).succeeded.get? r = some text ↔
        ⟨r, .ok text⟩ ∈ reports) ∧
      ∀ e, (ofReports id reports missing).failed.get? r = some e ↔ ⟨r, .error e⟩ ∈ reports := by
  unfold ofReports
  induction reports using List.reverseRecOn with
  | nil => simp [empty]
  | append_singleton reports s ih =>
    rw [List.map_append, List.nodup_append] at once
    obtain ⟨onceBefore, -, apart⟩ := once
    have fresh (result : Except RemoteError String) : ⟨s.sender, result⟩ ∉ reports := by
      intro member
      exact apart _ (List.mem_map_of_mem (f := Resolution.sender) member) _ (by simp) rfl
    obtain ⟨succeededBefore, failedBefore⟩ := ih onceBefore
    obtain ⟨sender, result⟩ := s
    simp only [List.foldl_append, List.foldl_cons, List.foldl_nil, List.mem_append,
      List.mem_singleton]
    cases result with
    | ok answer =>
      refine ⟨?_, by simpa [add] using failedBefore⟩
      intro text
      by_cases same : r = sender
      · subst same
        simp [add, fresh, eq_comm]
      · simp [add, same, succeededBefore]
    | error fault =>
      refine ⟨by simpa [add] using succeededBefore, ?_⟩
      intro e
      by_cases same : r = sender
      · subst same
        simp [add, fresh, eq_comm]
      · simp [add, same, failedBefore]

theorem mem_succeeded_ofReports (once : (reports.map Resolution.sender).Nodup) (r : RecipientId) :
    r ∈ (ofReports id reports missing).succeeded.keys ↔ ∃ text, ⟨r, .ok text⟩ ∈ reports := by
  rw [RecipientMap.mem_keys_iff]
  exact exists_congr (get?_ofReports once r).1

theorem mem_failed_ofReports (once : (reports.map Resolution.sender).Nodup) (r : RecipientId) :
    r ∈ (ofReports id reports missing).failed.keys ↔ ∃ e, ⟨r, .error e⟩ ∈ reports := by
  rw [RecipientMap.mem_keys_iff]
  exact exists_congr (get?_ofReports once r).2

@[simp] theorem mem_missing_ofReports (r : RecipientId) :
    r ∈ (ofReports id reports missing).missing.keys ↔ r ∈ missing :=
  RecipientSet.mem_keys_ofRecipients missing r

theorem mem_senders_iff (r : RecipientId) :
    r ∈ reports.map Resolution.sender ↔
      (∃ text, ⟨r, .ok text⟩ ∈ reports) ∨ ∃ e, ⟨r, .error e⟩ ∈ reports := by
  constructor
  · intro member
    obtain ⟨⟨sender, result⟩, reported, rfl⟩ := List.mem_map.1 member
    cases result with
    | ok text => exact Or.inl ⟨text, reported⟩
    | error e => exact Or.inr ⟨e, reported⟩
  · intro reports
    rcases reports with ⟨text, reported⟩ | ⟨e, reported⟩
    · exact List.mem_map_of_mem (f := Resolution.sender) reported
    · exact List.mem_map_of_mem (f := Resolution.sender) reported

/-- Every recipient is listed, and in one part only. -/
structure Partitions (o : BroadcastOutcome) (rs : List RecipientId) : Prop where
  succeeded_failed : o.succeeded.keys.Disjoint o.failed.keys
  succeeded_missing : o.succeeded.keys.Disjoint o.missing.keys
  failed_missing : o.failed.keys.Disjoint o.missing.keys
  listed : ∀ r, r ∈ rs ↔ r ∈ o.succeeded.keys ∨ r ∈ o.failed.keys ∨ r ∈ o.missing.keys

theorem Partitions.size_eq {o : BroadcastOutcome} {rs : List RecipientId}
    (parts : o.Partitions rs) : o.size = rs.toFinset.card := by
  have whole : rs.toFinset =
      (o.succeeded.keys.toFinset ∪ o.failed.keys.toFinset) ∪ o.missing.keys.toFinset := by
    ext r
    simpa [or_assoc] using parts.listed r
  have outer : Disjoint (o.succeeded.keys.toFinset ∪ o.failed.keys.toFinset)
      o.missing.keys.toFinset := by
    rw [Finset.disjoint_union_left, List.disjoint_toFinset_iff_disjoint,
      List.disjoint_toFinset_iff_disjoint]
    exact ⟨parts.succeeded_missing, parts.failed_missing⟩
  have inner : Disjoint o.succeeded.keys.toFinset o.failed.keys.toFinset :=
    List.disjoint_toFinset_iff_disjoint.2 parts.succeeded_failed
  rw [whole, Finset.card_union_of_disjoint outer, Finset.card_union_of_disjoint inner, size,
    RecipientMap.size_eq_card, RecipientMap.size_eq_card, RecipientMap.size_eq_card]

/-- Reports of different senders, with all others missing, leave nobody out. -/
theorem partitions_ofReports {rs : List RecipientId}
    (once : (reports.map Resolution.sender).Nodup) (owed : ∀ s ∈ reports, s.sender ∈ rs)
    (left : ∀ r, r ∈ missing ↔ r ∈ rs ∧ r ∉ reports.map Resolution.sender) :
    (ofReports id reports missing).Partitions rs := by
  have sole {r : RecipientId} {text : String} {e : RemoteError}
      (answered : ⟨r, .ok text⟩ ∈ reports) (broke : ⟨r, .error e⟩ ∈ reports) : False := by
    have same := List.inj_on_of_nodup_map once answered broke rfl
    cases same
  refine ⟨?_, ?_, ?_, ?_⟩
  · intro r succeeded failed
    obtain ⟨text, answered⟩ := (mem_succeeded_ofReports once r).1 succeeded
    obtain ⟨e, broke⟩ := (mem_failed_ofReports once r).1 failed
    exact sole answered broke
  · intro r succeeded absent
    rw [mem_missing_ofReports, left] at absent
    exact absent.2 ((mem_senders_iff r).2 (Or.inl ((mem_succeeded_ofReports once r).1 succeeded)))
  · intro r failed absent
    rw [mem_missing_ofReports, left] at absent
    exact absent.2 ((mem_senders_iff r).2 (Or.inr ((mem_failed_ofReports once r).1 failed)))
  · intro r
    rw [mem_succeeded_ofReports once, mem_failed_ofReports once, mem_missing_ofReports, left,
      ← or_assoc, ← mem_senders_iff]
    constructor
    · intro member
      by_cases reported : r ∈ reports.map Resolution.sender
      · exact Or.inl reported
      · exact Or.inr ⟨member, reported⟩
    · intro listed
      rcases listed with reported | ⟨member, -⟩
      · obtain ⟨s, member, rfl⟩ := List.mem_map.1 reported
        exact owed s member
      · exact member

end BroadcastOutcome

namespace FanOut

variable (c : Coordinator) (rs : List RecipientId) (request : Request) (wait : Nat) (w : World)

/-- Every recipient has a slot, whatever the recorder answers. -/
theorem recipients_start : (start c rs request wait w).1.slots.map Slot.recipient = rs := by
  have answers := Recorder.length_startSteps c.recorder request.requestId
    (c.label :: rs.map RecipientId.text)
    (w.connect (c.topic "broadcast" request.requestId) rs request).2.journal
  simp only [List.length_cons, List.length_map] at answers
  simp only [start, List.map_map]
  refine List.map_fst_zip ?_
  rw [List.length_tail]
  exact Nat.le_of_eq (by rw [Coordinator.startSteps, World.record, answers]; omega)

theorem missing_start : (start c rs request wait w).1.missing = rs := by
  have owed : (start c rs request wait w).1.slots.filter (fun s => s.report.isNone) =
      (start c rs request wait w).1.slots := by
    rw [List.filter_eq_self]
    intro s member
    obtain ⟨p, -, rfl⟩ := List.mem_map.1 member
    rfl
  rw [missing, owed]
  exact recipients_start c rs request wait w

theorem slots_finish (f : FanOut) (w : World) : (f.finish w).1.slots = f.slots := by
  unfold finish releaseChannel
  cases f.channel <;> rfl

theorem missing_finish (f : FanOut) (w : World) : (f.finish w).1.missing = f.missing := by
  rw [missing, slots_finish]
  rfl

theorem requestId_finish (f : FanOut) (w : World) : (f.finish w).1.requestId = f.requestId := by
  unfold finish releaseChannel
  cases f.channel <;> rfl

end FanOut

def Coordinator.rehearsal : Coordinator := ⟨"desk", "roll", ⟨Span.ofSecs 60, Span.ofMillis 5⟩⟩

/-- A stranger, silence, a rejection, a repeat, an answer and then the end of the channel. -/
def ScriptedChannel.rehearsal : ScriptedChannel :=
  ⟨some 0, none, some 0, none,
    [⟨1, .ok (some ⟨⟨"x"⟩, .empty, [], ⟨0, 0⟩⟩)⟩, ⟨0, .ok none⟩,
      ⟨4, .ok (some ⟨⟨"c"⟩, .rejected "busy", [], ⟨0, 0⟩⟩)⟩,
      ⟨4, .ok (some ⟨⟨"c"⟩, .payload (.string "late"), [], ⟨0, 0⟩⟩)⟩,
      ⟨1, .ok (some ⟨⟨"b"⟩, .payload (.string "yes"), [], ⟨0, 0⟩⟩)⟩, ⟨1, .error (.transport "gone")⟩]⟩

def World.rehearsal (script : List Disturbance) : World :=
  { journal := ⟨Clock.start fun _ => ⟨0, 0⟩, TraceStore.disturbed script ⟨0, 0⟩, 0, false⟩
    transport := .playback ⟨[], [ScriptedChannel.rehearsal]⟩
    calls := []
    requestCount := 0
    patience := 0
    stuck := false }

namespace Coordinator

variable (c : Coordinator) (recipients : List RecipientId) (payload : Json) (deadline : Nat)

theorem setOut_eq (w : World) :
    c.setOut recipients payload deadline w =
      FanOut.start c (distinct recipients) (w.newRequest payload).1 deadline
        (w.newRequest payload).2 := rfl

theorem missing_setOut (w : World) :
    (c.setOut recipients payload deadline w).1.missing = distinct recipients := by
  simp only [setOut]
  exact FanOut.missing_start c (distinct recipients) _ deadline _

variable {recipients payload deadline}

theorem missing_lt_slots {w w' : World} {f : FanOut}
    (started : c.setOut recipients payload deadline w = (f, w')) :
    f.missing = distinct recipients ∧ f.missing.length < f.slots.length + 1 := by
  refine ⟨?_, ?_⟩
  · have owed := missing_setOut c recipients payload deadline w
    rw [started] at owed
    exact owed
  · have fewer := f.missing_sublist.length_le
    rw [List.length_map] at fewer
    exact Nat.lt_succ_of_le fewer

/-- A broadcast sets out, gathers reports and lists what came of it. -/
theorem broadcast_eq (w : World) (accepted : broadcastRefusal? recipients payload deadline = none)
    {f f' : FanOut} {w' w'' : World} {reports : List Resolution}
    (started : c.setOut recipients payload deadline w = (f, w'))
    (gathered : f.gather (f.slots.length + 1) w' = (reports, f', w'')) :
    c.broadcast recipients payload deadline w =
      (.ok (.ofReports f'.requestId reports f'.missing), (f'.finish w'').2) := by
  simp only [broadcast, accepted, started, gathered, FanOut.missing_finish,
    FanOut.requestId_finish]

/--
A broadcast that is not refused has an outcome, in which every recipient is listed in exactly one
part, each once.
-/
theorem broadcast_partitions (w : World)
    (accepted : broadcastRefusal? recipients payload deadline = none) :
    ∃ o, (c.broadcast recipients payload deadline w).1 = .ok o ∧ o.Partitions recipients ∧
      o.size = recipients.toFinset.card := by
  rcases started : c.setOut recipients payload deadline w with ⟨f, w'⟩
  rcases gathered : f.gather (f.slots.length + 1) w' with ⟨reports, f', w''⟩
  obtain ⟨log, run⟩ := FanOut.gather_run (f.slots.length + 1) f w'
  rw [gathered] at run
  have all := missing_setOut c recipients payload deadline w
  rw [started] at all
  obtain ⟨once, owed, left⟩ := run.missing
  rw [all] at owed left
  have parts : (BroadcastOutcome.ofReports f'.requestId reports f'.missing).Partitions recipients := by
    apply BroadcastOutcome.partitions_ofReports once
    · intro s member
      exact (mem_distinct _ _).1 (owed s member)
    · intro r
      rw [left, List.mem_filter, mem_distinct, decide_eq_true_iff]
  rw [broadcast_eq c w accepted started gathered]
  exact ⟨_, rfl, parts, parts.size_eq⟩

/-- A store that refuses, that is slow and that is too slow. -/
theorem broadcast_partitions_rehearsal :
    broadcastRefusal? [⟨"a"⟩, ⟨"b"⟩, ⟨"a"⟩, ⟨"c"⟩] (.string "hi") 50 = none ∧
      ∃ o, (rehearsal.broadcast [⟨"a"⟩, ⟨"b"⟩, ⟨"a"⟩, ⟨"c"⟩] (.string "hi") 50
          (World.rehearsal [.refuse, .stall 3, .proceed, .stall 9])).1 = .ok o ∧
        o.Partitions [⟨"a"⟩, ⟨"b"⟩, ⟨"a"⟩, ⟨"c"⟩] ∧ o.size = 3 :=
  have accepted : broadcastRefusal? [⟨"a"⟩, ⟨"b"⟩, ⟨"a"⟩, ⟨"c"⟩] (.string "hi") 50 = none := by
    decide
  ⟨accepted, broadcast_partitions _ _ accepted⟩

end Coordinator

end RollCall
