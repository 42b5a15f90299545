import Mathlib.Data.List.Perm.Basic
import RollCall.Transport.Hub

set_option autoImplicit false

/-!
What surfaces on a channel of scripted participants, said without any tasks: a request makes those
speak that it is for, and each message makes those speak that it is forwarded to. The graph of who
forwards to whom may have cycles, so messages are counted by generation and up to a horizon.
-/
namespace RollCall

def Registry.scripted (scripts : RecipientMap (List Rule)) : Registry :=
  ⟨scripts.entries.map fun e => (e.1, Participant.scripted e.2),
    List.pairwise_map.2 scripts.ordered⟩

theorem Registry.get?_scripted (scripts : RecipientMap (List Rule)) (r : RecipientId) :
    (scripted scripts).get? r = (scripts.get? r).map Participant.scripted := by
  show List.lookup r (scripts.entries.map fun e => (e.1, Participant.scripted e.2)) =
    (List.lookup r scripts.entries).map Participant.scripted
  induction scripts.entries with
  | nil => rfl
  | cons e rest ih =>
    rw [List.map_cons, List.lookup_cons, List.lookup_cons, ih]
    split <;> rfl

/-- A message on a channel with the millisecond at which it surfaces. -/
structure Surfacing where
  ms : Nat
  message : Message

namespace Surfacing

variable (scripts : RecipientMap (List Rule))

/--
What those say whom a message reaches at a millisecond: each that is registered, as often as it is
named, follows every rule that the message meets.
-/
def spoken (ms : Nat) (sender : Option RecipientId) (targets : List RecipientId) : List Surfacing :=
  targets.flatMap fun g =>
    (((scripts.get? g).getD []).filter fun rule => rule.trigger.meets sender).map fun rule =>
      ⟨ms + rule.outbound.delay, ⟨g, rule.outbound.body, rule.outbound.forwardTo⟩⟩

/-- What a message that surfaces makes those say that it is forwarded to. -/
def forwarded (s : Surfacing) : List Surfacing :=
  spoken scripts s.ms (some s.message.sender) s.message.addressedTo

/-- The messages that so many forwardings lead to. -/
def generation (first : List Surfacing) : Nat → List Surfacing
  | 0 => first
  | n + 1 => (generation first n).flatMap (forwarded scripts)

variable (horizon : Nat)

/-- The messages of so many generations that surface before a horizon. -/
def arising (first : List Surfacing) (n : Nat) : List Surfacing :=
  (List.range n).flatMap fun k => (generation scripts first k).filter fun s => s.ms < horizon

/-- After so many generations nothing surfaces before the horizon. -/
def Extinct (first : List Surfacing) (n : Nat) : Prop :=
  ∀ s ∈ generation scripts first n, horizon ≤ s.ms

variable {scripts horizon} {first rest : List Surfacing} {m n : Nat}

theorem generation_succ (first : List Surfacing) (n : Nat) :
    generation scripts first (n + 1) =
      generation scripts (first.flatMap (forwarded scripts)) n := by
  induction n with
  | zero => rfl
  | succ n ih => rw [generation, ih, generation]

theorem generation_append (first rest : List Surfacing) (n : Nat) :
    generation scripts (first ++ rest) n =
      generation scripts first n ++ generation scripts rest n := by
  induction n with
  | zero => rfl
  | succ n ih => rw [generation, ih, List.flatMap_append, generation, generation]

theorem generation_perm (perm : first.Perm rest) (n : Nat) :
    (generation scripts first n).Perm (generation scripts rest n) := by
  induction n with
  | zero => exact perm
  | succ n ih => exact ih.flatMap_right _

theorem ms_le_of_mem_spoken {ms : Nat} {sender : Option RecipientId} {targets : List RecipientId}
    {s : Surfacing} (member : s ∈ spoken scripts ms sender targets) : ms ≤ s.ms := by
  obtain ⟨g, -, said⟩ := List.mem_flatMap.1 member
  obtain ⟨rule, -, rfl⟩ := List.mem_map.1 said
  exact Nat.le_add_right _ _

/-- Whatever descends from messages after the horizon surfaces after it too. -/
theorem late_of_late (late : ∀ s ∈ first, horizon ≤ s.ms) :
    ∀ s ∈ first.flatMap (forwarded scripts), horizon ≤ s.ms := by
  intro s member
  obtain ⟨origin, present, said⟩ := List.mem_flatMap.1 member
  exact Nat.le_trans (late origin present) (ms_le_of_mem_spoken said)

theorem Extinct.later (extinct : Extinct scripts horizon first m) (later : m ≤ n) :
    Extinct scripts horizon first n := by
  induction later with
  | refl => exact extinct
  | step _ ih => exact late_of_late ih

theorem Extinct.perm (extinct : Extinct scripts horizon first n) (perm : first.Perm rest) :
    Extinct scripts horizon rest n :=
  fun s member => extinct s ((generation_perm perm n).mem_iff.2 member)

theorem Extinct.forwarded (extinct : Extinct scripts horizon first n) :
    Extinct scripts horizon (first.flatMap (Surfacing.forwarded scripts)) n := by
  intro s member
  rw [← generation_succ] at member
  exact extinct.later (Nat.le_succ n) s member

theorem extinct_append_iff : Extinct scripts horizon (first ++ rest) n ↔
    Extinct scripts horizon first n ∧ Extinct scripts horizon rest n := by
  simp only [Extinct, generation_append, List.forall_mem_append]

theorem arising_append (first rest : List Surfacing) (n : Nat) :
    (arising scripts horizon (first ++ rest) n).Perm
      (arising scripts horizon first n ++ arising scripts horizon rest n) := by
  simp only [arising, generation_append, List.filter_append]
  exact (List.flatMap_append_perm _ _ _).symm

theorem arising_perm (perm : first.Perm rest) (n : Nat) :
    (arising scripts horizon first n).Perm (arising scripts horizon rest n) :=
  List.Perm.flatMap_left _ fun k _ => (generation_perm perm k).filter _

theorem arising_succ (first : List Surfacing) (n : Nat) :
    arising scripts horizon first (n + 1) = (first.filter fun s => s.ms < horizon) ++
      arising scripts horizon (first.flatMap (forwarded scripts)) n := by
  simp only [arising, List.range_succ_eq_map, List.flatMap_cons, List.flatMap_map, generation_succ]
  rfl

theorem filter_of_late (late : ∀ s ∈ first, horizon ≤ s.ms) :
    (first.filter fun s => s.ms < horizon) = [] :=
  List.filter_eq_nil_iff.2 fun s member => by simpa using late s member

theorem arising_of_late (late : ∀ s ∈ first, horizon ≤ s.ms) (n : Nat) :
    arising scripts horizon first n = [] := by
  refine List.flatMap_eq_nil_iff.2 fun k _ => filter_of_late ?_
  exact Extinct.later (m := 0) late (Nat.zero_le k)

theorem arising_of_extinct (extinct : Extinct scripts horizon first m) (later : m ≤ n) :
    arising scripts horizon first n = arising scripts horizon first m := by
  induction later with
  | refl => rfl
  | step onward ih =>
    rw [arising, List.range_succ, List.flatMap_append, List.flatMap_singleton,
      filter_of_late (extinct.later onward), List.append_nil]
    exact ih

/-- Messages that surface are replaced by what they make others say. -/
theorem arising_surfaced (early : ∀ s ∈ first, s.ms < horizon)
    (extinct : Extinct scripts horizon first n) :
    (arising scripts horizon (first ++ rest) n).Perm
      (first ++ arising scripts horizon (first.flatMap (forwarded scripts) ++ rest) n) := by
  have own : arising scripts horizon first n =
      first ++ arising scripts horizon (first.flatMap (forwarded scripts)) n := by
    have all : (first.filter fun s => s.ms < horizon) = first :=
      List.filter_eq_self.2 fun s member => by simpa using early s member
    rw [← arising_of_extinct extinct (Nat.le_succ n), arising_succ, all]
  refine (arising_append first rest n).trans ?_
  rw [own, List.append_assoc]
  exact List.Perm.append_left first (arising_append _ rest n).symm

/-- If only so many messages arise before the horizon, some generation has none. -/
theorem exists_extinct {bound : Nat}
    (finite : ∀ n, (arising scripts horizon first n).length ≤ bound) :
    ∃ n, Extinct scripts horizon first n := by
  by_contra never
  have many (n : Nat) : n ≤ (arising scripts horizon first n).length := by
    induction n with
    | zero => exact Nat.zero_le _
    | succ n ih =>
      have some : (generation scripts first n).filter (fun s => s.ms < horizon) ≠ [] := by
        intro none
        refine never ⟨n, fun s member => ?_⟩
        simpa using List.filter_eq_nil_iff.1 none s member
      have pos := List.length_pos_iff.2 some
      rw [arising, List.range_succ, List.flatMap_append, List.flatMap_singleton,
        List.length_append]
      rw [arising] at ih
      omega
  have := many (bound + 1)
  have := finite (bound + 1)
  omega

/-- It is enough to look at one generation. -/
theorem Extinct.finite (extinct : Extinct scripts horizon first m) (n : Nat) :
    (arising scripts horizon first n).length ≤ (arising scripts horizon first m).length := by
  by_cases later : m ≤ n
  · exact Nat.le_of_eq (congrArg List.length (arising_of_extinct extinct later))
  · have more : List.range m = List.range n ++ (List.range (m - n)).map (n + ·) := by
      rw [← List.range_add, Nat.add_sub_cancel' (Nat.le_of_not_le later)]
    rw [arising, arising, more, List.flatMap_append, List.length_append]
    exact Nat.le_add_right _ _

end Surfacing

end RollCall
