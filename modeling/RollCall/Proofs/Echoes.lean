import Mathlib.Data.Set.Insert
import RollCall.Proofs.Routing

set_option autoImplicit false

/-!
Members who are listed twice. Whoever is asked twice says everything twice, and those whom it
forwards to hear everything twice; but nobody can say anything for the second time before the first.
What comes on such a channel is what would come if everybody were listed once, and in between echoes
of it: what would come if only the repetitions were listed, each message after an equal one.

Two channels make up a third in this way if their tasks do. The next task of the whole is then the
next task of one of the two, and of the first unless that has run an equal task already.
-/
namespace RollCall

/--
Originals and echoes make up a whole, in the order in which they are; each echo comes after an equal
original, or is of something known before.
-/
inductive Echoes {α : Type} : Set α → List α → List α → List α → Prop
  | nil (known : Set α) : Echoes known [] [] []
  | original {known : Set α} {a : α} {originals echoes whole : List α}
      (later : Echoes (insert a known) originals echoes whole) :
      Echoes known (a :: originals) echoes (a :: whole)
  | echo {known : Set α} {a : α} {originals echoes whole : List α} (heard : a ∈ known)
      (later : Echoes known originals echoes whole) :
      Echoes known originals (a :: echoes) (a :: whole)

namespace Echoes

variable {α β : Type} {known more : Set α} {originals echoes whole xs : List α}

theorem mono (e : Echoes known originals echoes whole) (subset : known ⊆ more) :
    Echoes more originals echoes whole := by
  induction e generalizing more with
  | nil => exact .nil more
  | original _ ih => exact .original (ih (Set.insert_subset_insert subset))
  | echo heard _ ih => exact .echo (subset heard) (ih subset)

theorem perm (e : Echoes known originals echoes whole) : (originals ++ echoes).Perm whole := by
  induction e with
  | nil => exact List.Perm.refl _
  | original _ ih => exact ih.cons _
  | echo _ _ ih => exact List.perm_middle.trans (ih.cons _)

theorem mem_iff (e : Echoes known originals echoes whole) (a : α) :
    a ∈ whole ↔ a ∈ originals ∨ a ∈ echoes := by
  rw [← e.perm.mem_iff, List.mem_append]

theorem length_eq (e : Echoes known originals echoes whole) :
    whole.length = originals.length + echoes.length := by
  rw [← e.perm.length_eq, List.length_append]

/-- Whatever is an echo has an original. -/
theorem heard (e : Echoes known originals echoes whole) :
    ∀ a ∈ echoes, a ∈ known ∨ a ∈ originals := by
  induction e with
  | nil => exact fun a member => absurd member List.not_mem_nil
  | original _ ih =>
    intro b member
    rcases ih b member with old | later
    · rcases Set.mem_insert_iff.1 old with rfl | old
      · exact Or.inr List.mem_cons_self
      · exact Or.inl old
    · exact Or.inr (List.mem_cons_of_mem _ later)
  | echo heard _ ih =>
    intro b member
    rcases List.mem_cons.1 member with rfl | later
    · exact Or.inl heard
    · exact ih b later

theorem all_original (known : Set α) (xs : List α) : Echoes known xs [] xs := by
  induction xs generalizing known with
  | nil => exact .nil known
  | cons x xs ih => exact .original (ih _)

theorem all_echoes (heard : ∀ x ∈ xs, x ∈ known) : Echoes known [] xs xs := by
  induction xs with
  | nil => exact .nil known
  | cons x xs ih =>
    exact .echo (heard x List.mem_cons_self) (ih fun y later => heard y (List.mem_cons_of_mem x later))

theorem append {originals' echoes' whole' : List α} (e : Echoes known originals echoes whole)
    (later : Echoes (known ∪ {a | a ∈ originals}) originals' echoes' whole') :
    Echoes known (originals ++ originals') (echoes ++ echoes') (whole ++ whole') := by
  induction e with
  | nil => exact later.mono (by simp)
  | original _ ih =>
    refine .original (ih (later.mono ?_))
    rintro b (old | member)
    · exact Or.inl (Or.inr old)
    · rcases List.mem_cons.1 member with rfl | member
      · exact Or.inl (Set.mem_insert b _)
      · exact Or.inr member
  | echo heard _ ih => exact .echo heard (ih later)

theorem append_original (e : Echoes known originals echoes whole) (xs : List α) :
    Echoes known (originals ++ xs) echoes (whole ++ xs) := by
  have longer := e.append (all_original _ xs)
  rwa [List.append_nil] at longer

theorem append_echoes (e : Echoes known originals echoes whole)
    (heard : ∀ x ∈ xs, x ∈ known ∨ x ∈ originals) :
    Echoes known originals (echoes ++ xs) (whole ++ xs) := by
  have longer := e.append (all_echoes heard)
  rwa [List.append_nil] at longer

theorem filterMap (e : Echoes known originals echoes whole) (f : α → Option β) {known' : Set β}
    (images : ∀ a ∈ known, ∀ b ∈ f a, b ∈ known') :
    Echoes known' (originals.filterMap f) (echoes.filterMap f) (whole.filterMap f) := by
  induction e generalizing known' with
  | nil => exact .nil known'
  | @original known a _ _ _ _ ih =>
    cases image : f a with
    | none =>
      rw [List.filterMap_cons_none image, List.filterMap_cons_none image]
      apply ih
      rintro x (rfl | old) b mapped
      · rw [image] at mapped
        cases mapped
      · exact images x old b mapped
    | some b =>
      rw [List.filterMap_cons_some image, List.filterMap_cons_some image]
      refine .original (ih ?_)
      rintro x (rfl | old) b' mapped
      · rw [image] at mapped
        cases mapped
        exact Set.mem_insert b known'
      · exact Set.mem_insert_of_mem b (images x old b' mapped)
  | @echo known a _ _ _ heard _ ih =>
    cases image : f a with
    | none =>
      rw [List.filterMap_cons_none image, List.filterMap_cons_none image]
      exact ih images
    | some b =>
      rw [List.filterMap_cons_some image, List.filterMap_cons_some image]
      exact .echo (images a heard b image) (ih images)

theorem map (e : Echoes ∅ originals echoes whole) (f : α → β) :
    Echoes ∅ (originals.map f) (echoes.map f) (whole.map f) := by
  simp only [← List.filterMap_eq_map]
  exact e.filterMap _ fun a old => absurd old (Set.notMem_empty a)

/-- Without echoes there are only originals. -/
theorem whole_eq_iff (e : Echoes known originals echoes whole) :
    whole = originals ↔ echoes = [] := by
  refine ⟨fun same => ?_, fun none => ?_⟩
  · have length := e.length_eq
    rw [same] at length
    exact List.eq_nil_of_length_eq_zero (by omega)
  · induction e with
    | nil => rfl
    | original _ ih => rw [ih none]
    | echo => cases none

/-- Up to any original the whole is made up of what comes before it. -/
theorem cut {before after : List α} {m : α} (e : Echoes known originals echoes whole)
    (split : originals = before ++ m :: after) :
    ∃ first rest some, whole = first ++ m :: rest ∧ some <+: echoes ∧
      Echoes known before some first := by
  induction e generalizing before with
  | nil => simp at split
  | @original known a originals echoes whole later ih =>
    cases before with
    | nil =>
      obtain ⟨rfl, rfl⟩ := List.cons.inj split
      exact ⟨[], whole, [], rfl, List.nil_prefix, .nil known⟩
    | cons b before =>
      obtain ⟨rfl, same⟩ := List.cons.inj split
      obtain ⟨first, rest, some, rfl, begins, made⟩ := ih same
      exact ⟨a :: first, rest, some, rfl, begins, .original made⟩
  | @echo known a _ _ _ heard _ ih =>
    obtain ⟨first, rest, some, rfl, begins, made⟩ := ih split
    exact ⟨a :: first, rest, a :: some, rfl, List.cons_prefix_cons.2 ⟨rfl, begins⟩, .echo heard made⟩

end Echoes

namespace Hub

variable {t u : Task}

theorem earliest?_cons_of_not_before {rest : List Task}
    (order : ∀ u ∈ rest, u.due.before t.due = false) : earliest? (t :: rest) = some (t, rest) := by
  rw [earliest?]
  cases later : earliest? rest with
  | none => rfl
  | some found =>
    have least := order found.1 ((perm_of_earliest? later).mem_iff.1 List.mem_cons_self)
    exact if_neg (by simp [least])

theorem earliest?_cons_of_before {rest others : List Task} (later : earliest? rest = some (t, others))
    (earlier : t.due.before u.due = true) : earliest? (u :: rest) = some (t, u :: others) := by
  rw [earliest?, later]
  exact if_pos earlier

theorem earliest?_cons_cases {rest others : List Task}
    (first : earliest? (u :: rest) = some (t, others)) :
    (t = u ∧ others = rest ∧ ∀ v ∈ rest, v.due.before t.due = false) ∨
      ∃ left, earliest? rest = some (t, left) ∧ others = u :: left ∧ t.due.before u.due = true := by
  have order := not_before_of_earliest? first
  rw [earliest?] at first
  cases later : earliest? rest with
  | none =>
    rw [later] at first
    cases first
    exact Or.inl ⟨rfl, rfl, order⟩
  | some found =>
    rw [later] at first
    dsimp only at first
    split at first
    · rename_i earlier
      cases first
      exact Or.inr ⟨found.2, rfl, rfl, earlier⟩
    · cases first
      exact Or.inl ⟨rfl, rfl, order⟩

end Hub

open Hub in
/--
The earliest task of the whole is the earliest original, or the earliest echo; then its original has
run, since an equal task that is listed before it would have to run first.
-/
theorem Echoes.earliest? {known : Set Task} {originals echoes whole others : List Task} {t : Task}
    (e : Echoes known originals echoes whole) (first : Hub.earliest? whole = some (t, others)) :
    (∃ rest, Hub.earliest? originals = some (t, rest) ∧ Echoes (insert t known) rest echoes others) ∨
      (t ∈ known ∧
        ∃ rest, Hub.earliest? echoes = some (t, rest) ∧ Echoes known originals rest others) := by
  induction e generalizing t others with
  | nil => cases first
  | @original known a originals echoes whole later ih =>
    rcases earliest?_cons_cases first with ⟨rfl, rfl, order⟩ | ⟨left, found, rfl, earlier⟩
    · left
      exact ⟨originals, earliest?_cons_of_not_before fun v member =>
        order v ((later.mem_iff v).2 (Or.inl member)), later⟩
    · rcases ih found with ⟨rest, own, still⟩ | ⟨heard, rest, own, still⟩
      · left
        refine ⟨a :: rest, earliest?_cons_of_before own earlier, .original ?_⟩
        rwa [Set.insert_comm]
      · right
        have old : t ∈ known := by
          rcases Set.mem_insert_iff.1 heard with rfl | old
          · rw [Moment.not_before_self] at earlier
            cases earlier
          · exact old
        exact ⟨old, rest, own, .original still⟩
  | @echo known b originals echoes whole heard later ih =>
    rcases earliest?_cons_cases first with ⟨rfl, rfl, order⟩ | ⟨left, found, rfl, earlier⟩
    · right
      exact ⟨heard, echoes, earliest?_cons_of_not_before fun v member =>
        order v ((later.mem_iff v).2 (Or.inr member)), later⟩
    · rcases ih found with ⟨rest, own, still⟩ | ⟨old, rest, own, still⟩
      · left
        exact ⟨rest, own, .echo (Set.mem_insert_of_mem t heard) still⟩
      · right
        exact ⟨old, b :: rest, earliest?_cons_of_before own earlier, .echo heard still⟩

namespace Hub

variable {registry : Registry} {bound : Moment} {known : Set Task} {a b h h' : Hub} {t u : Task}

theorem next?_of_waiting {waiting : List Task} (first : earliest? h.waiting = some (t, waiting))
    (order : ∀ u ∈ h.fresh, u.due.before t.due = false) :
    h.next? = some (t, { h with waiting := waiting }) := by
  unfold next?
  rw [first]
  cases new : earliest? h.fresh with
  | none => rfl
  | some found =>
    have later := order found.1 ((perm_of_earliest? new).mem_iff.1 List.mem_cons_self)
    exact if_neg (by simp [later])

theorem next?_of_fresh {fresh : List Task} (first : earliest? h.fresh = some (t, fresh))
    (order : ∀ u ∈ h.waiting, t.due.before u.due = true) :
    h.next? = some (t, { h with fresh := fresh }) := by
  unfold next?
  rw [first]
  cases waits : earliest? h.waiting with
  | none => rfl
  | some found =>
    exact if_pos (order found.1 ((perm_of_earliest? waits).mem_iff.1 List.mem_cons_self))

/-- The tasks of two channels make up those of a third, as originals and echoes. -/
structure Doubles (known : Set Task) (a b h : Hub) : Prop where
  waiting : Echoes known a.waiting b.waiting h.waiting
  fresh : Echoes known a.fresh b.fresh h.fresh

/-- The tasks of each of the two are tasks of the whole. -/
theorem Doubles.subset (doubles : Doubles known a b h) :
    (a.waiting ⊆ h.waiting ∧ a.fresh ⊆ h.fresh) ∧ b.waiting ⊆ h.waiting ∧ b.fresh ⊆ h.fresh := by
  refine ⟨⟨?_, ?_⟩, ?_, ?_⟩
  · exact fun u member => (doubles.waiting.mem_iff u).2 (Or.inl member)
  · exact fun u member => (doubles.fresh.mem_iff u).2 (Or.inl member)
  · exact fun u member => (doubles.waiting.mem_iff u).2 (Or.inr member)
  · exact fun u member => (doubles.fresh.mem_iff u).2 (Or.inr member)

/-- What the whole does next one of the two does next. -/
theorem Doubles.next (doubles : Doubles known a b h) (next : h.next? = some (t, h')) :
    (∃ a', a.next? = some (t, a') ∧ Doubles (insert t known) a' b h') ∨
      (t ∈ known ∧ ∃ b', b.next? = some (t, b') ∧ Doubles known a b' h') := by
  have grown : known ⊆ insert t known := Set.subset_insert t known
  obtain ⟨⟨waitingA, freshA⟩, waitingB, freshB⟩ := doubles.subset
  rcases next?_earliest next with ⟨waiting, first, rfl, order⟩ | ⟨fresh, first, rfl, order⟩
  · rcases doubles.waiting.earliest? first with ⟨rest, own, left⟩ | ⟨heard, rest, own, left⟩
    · have nextA := next?_of_waiting own fun u member => order u (freshA member)
      exact Or.inl ⟨_, nextA, left, doubles.fresh.mono grown⟩
    · have nextB := next?_of_waiting own fun u member => order u (freshB member)
      exact Or.inr ⟨heard, _, nextB, left, doubles.fresh⟩
  · rcases doubles.fresh.earliest? first with ⟨rest, own, left⟩ | ⟨heard, rest, own, left⟩
    · have nextA := next?_of_fresh own fun u member => order u (waitingA member)
      exact Or.inl ⟨_, nextA, doubles.waiting.mono grown, left⟩
    · have nextB := next?_of_fresh own fun u member => order u (waitingB member)
      exact Or.inr ⟨heard, _, nextB, doubles.waiting, left⟩

def said (t : Task) : List Arrival :=
  (t.outbounds.takeWhile (t.isDue t.due)).map fun o => ⟨t.due, ⟨t.owner, o.body, o.forwardTo⟩⟩

def remainder (t : Task) : List Task := t.postponed (t.outbounds.dropWhile (t.isDue t.due))

theorem act_own (registry : Registry) (t : Task) (isOpen : h.closed = false) :
    act registry t.due t t.outbounds h =
      { h with
        inbox := h.inbox ++ said t
        fresh := h.fresh ++ successors registry t
        waiting := h.waiting ++ remainder t } :=
  act_eq registry t.due t t.outbounds isOpen

theorem step?_of_next? {rest : Hub} (next : h.next? = some (t, rest))
    (due : t.due.before bound = true) :
    h.step? registry bound = some (act registry t.due t t.outbounds rest) := by
  rw [step?, next]
  exact if_pos due

/-- Nothing happens before a moment exactly if no task is due. -/
theorem step?_eq_none_iff :
    h.step? registry bound = none ↔ ∀ u ∈ h.tasks, u.due.before bound = false := by
  unfold step?
  cases next : h.next? with
  | none => simp [tasks_of_next?_none next]
  | some found =>
    obtain ⟨t, rest⟩ := found
    have present : t ∈ h.tasks := (perm_of_next? next).mem_iff.1 List.mem_cons_self
    have first := not_before_of_next? next
    dsimp only
    refine ⟨fun still u member => ?_, fun late => ?_⟩
    · split at still
      · cases still
      · rename_i late
        exact not_before_trans (first u member) (Bool.eq_false_iff.2 late)
    · exact if_neg (by simp [late t present])

/-- A channel that has run a task still has everything that came of it, or has run that too. -/
structure Followed (registry : Registry) (known : Set Task) (a : Hub) (t : Task) : Prop where
  remainder : ∀ u ∈ remainder t, u ∈ known ∨ u ∈ a.waiting
  successors : ∀ u ∈ successors registry t, u ∈ known ∨ u ∈ a.fresh
  said : ∀ m ∈ said t, m ∈ a.inbox

/-- The first runs another task. -/
theorem Followed.next {a' : Hub} (followed : Followed registry known a u)
    (next : a.next? = some (t, a')) (isOpen : a'.closed = false) :
    Followed registry (insert t known) (act registry t.due t t.outbounds a') u := by
  have inbox := inbox_of_next? next
  obtain ⟨remainder, successors, said⟩ := followed
  rw [act_own registry t isOpen]
  refine ⟨fun v member => ?_, fun v member => ?_, fun m member => ?_⟩
  · rcases remainder v member with old | waits
    · exact Or.inl (Set.mem_insert_of_mem t old)
    · rcases next?_cases next with ⟨waiting, perm, rfl⟩ | ⟨fresh, -, rfl⟩
      · rcases List.mem_cons.1 (perm.mem_iff.2 waits) with rfl | waits
        · exact Or.inl (Set.mem_insert v known)
        · exact Or.inr (List.mem_append_left _ waits)
      · exact Or.inr (List.mem_append_left _ waits)
  · rcases successors v member with old | new
    · exact Or.inl (Set.mem_insert_of_mem t old)
    · rcases next?_cases next with ⟨waiting, -, rfl⟩ | ⟨fresh, perm, rfl⟩
      · exact Or.inr (List.mem_append_left _ new)
      · rcases List.mem_cons.1 (perm.mem_iff.2 new) with rfl | new
        · exact Or.inl (Set.mem_insert v known)
        · exact Or.inr (List.mem_append_left _ new)
  · exact List.mem_append_left _ (inbox ▸ said m member)

theorem followed_self (registry : Registry) (known : Set Task) (t : Task)
    (isOpen : a.closed = false) :
    Followed registry known (act registry t.due t t.outbounds a) t := by
  rw [act_own registry t isOpen]
  exact ⟨fun u member => Or.inr (List.mem_append_right _ member),
    fun u member => Or.inr (List.mem_append_right _ member),
    fun m member => List.mem_append_right _ member⟩

/--
Two channels make up a third, as originals and echoes of what is to come and of what has come; the
tasks that are known have run on the first.
-/
structure Resounds (registry : Registry) (known : Set Task) (a b h : Hub) : Prop where
  isOpen : a.closed = false ∧ b.closed = false ∧ h.closed = false
  doubles : Doubles known a b h
  inbox : Echoes ∅ a.inbox b.inbox h.inbox
  followed : ∀ t ∈ known, Followed registry known a t

/-- With each step of the whole one of the two makes the same. -/
theorem Resounds.step (resounds : Resounds registry known a b h)
    (step : h.step? registry bound = some h') :
    (∃ t a', a.step? registry bound = some a' ∧ Resounds registry (insert t known) a' b h') ∨
      ∃ b', b.step? registry bound = some b' ∧ Resounds registry known a b' h' := by
  obtain ⟨⟨isOpenA, isOpenB, isOpen⟩, doubles, inbox, followed⟩ := resounds
  obtain ⟨t, rest, next, due, rfl⟩ := step?_cases step
  have restOpen := (closed_of_next? next).trans isOpen
  rcases doubles.next next with ⟨a', nextA, left⟩ | ⟨heard, b', nextB, left⟩
  · left
    have leftOpen := (closed_of_next? nextA).trans isOpenA
    have own := act_own registry t restOpen
    have ownA := act_own registry t leftOpen
    refine ⟨t, _, step?_of_next? nextA due, ?_, ⟨?_, ?_⟩, ?_, ?_⟩
    · exact ⟨(closed_act _ _ _ _ _).trans leftOpen, isOpenB, (closed_act _ _ _ _ _).trans restOpen⟩
    · rw [own, ownA]
      exact left.waiting.append_original _
    · rw [own, ownA]
      exact left.fresh.append_original _
    · rw [own, ownA]
      dsimp only
      rw [inbox_of_next? next, inbox_of_next? nextA]
      exact inbox.append_original _
    · intro u old
      rcases Set.mem_insert_iff.1 old with rfl | old
      · exact followed_self registry _ u leftOpen
      · exact (followed u old).next nextA leftOpen
  · right
    have leftOpen := (closed_of_next? nextB).trans isOpenB
    have own := act_own registry t restOpen
    have ownB := act_own registry t leftOpen
    obtain ⟨remainder, successors, said⟩ := followed t heard
    refine ⟨_, step?_of_next? nextB due, ?_, ⟨?_, ?_⟩, ?_, followed⟩
    · exact ⟨isOpenA, (closed_act _ _ _ _ _).trans leftOpen, (closed_act _ _ _ _ _).trans restOpen⟩
    · rw [own, ownB]
      exact left.waiting.append_echoes remainder
    · rw [own, ownB]
      exact left.fresh.append_echoes successors
    · rw [own, ownB]
      dsimp only
      rw [inbox_of_next? next, inbox_of_next? nextB]
      exact inbox.append_echoes fun m member => Or.inr (said m member)

/-- Where the whole is at rest both are. -/
theorem Resounds.still (resounds : Resounds registry known a b h)
    (still : h.step? registry bound = none) :
    a.step? registry bound = none ∧ b.step? registry bound = none := by
  obtain ⟨⟨waitingA, freshA⟩, waitingB, freshB⟩ := resounds.doubles.subset
  rw [step?_eq_none_iff] at still
  have tasksA : a.tasks ⊆ h.tasks := List.append_subset.2
    ⟨List.subset_append_of_subset_left _ waitingA, List.subset_append_of_subset_right _ freshA⟩
  have tasksB : b.tasks ⊆ h.tasks := List.append_subset.2
    ⟨List.subset_append_of_subset_left _ waitingB, List.subset_append_of_subset_right _ freshB⟩
  exact ⟨step?_eq_none_iff.2 fun u member => still u (tasksA member),
    step?_eq_none_iff.2 fun u member => still u (tasksB member)⟩

/-- When the whole has run so many tasks, each of the two has run some of them. -/
theorem Resounds.run (resounds : Resounds registry known a b h) (bound : Moment) (count : Nat) :
    ∃ known' i j, i ≤ count ∧ j ≤ count ∧ Resounds registry known' (run registry bound i a)
      (run registry bound j b) (run registry bound count h) := by
  induction count generalizing known a b h with
  | zero => exact ⟨known, 0, 0, Nat.le_refl _, Nat.le_refl _, resounds⟩
  | succ count ih =>
    cases step : h.step? registry bound with
    | none =>
      rw [run_of_still step]
      exact ⟨known, 0, 0, Nat.zero_le _, Nat.zero_le _, resounds⟩
    | some h' =>
      have ran : Hub.run registry bound (count + 1) h = Hub.run registry bound count h' := by
        rw [Hub.run, step]
      rw [ran]
      rcases resounds.step step with ⟨t, a', stepA, later⟩ | ⟨b', stepB, later⟩
      · obtain ⟨known', i, j, few, few', made⟩ := ih later
        refine ⟨known', i + 1, j, by omega, by omega, ?_⟩
        rw [Hub.run, stepA]
        exact made
      · obtain ⟨known', i, j, few, few', made⟩ := ih later
        refine ⟨known', i, j + 1, by omega, by omega, ?_⟩
        rw [Hub.run, stepB]
        exact made

variable {limit count : Nat}

/-- A channel on which nothing more comes is at rest after some more tasks. -/
theorem Sound.exists_still (sound : h.Sound limit)
    (whole : ∀ k, h.arrivals registry limit k <+: h.arrivals registry limit count) :
    ∃ all, (Hub.run registry (Moment.start limit) all h).step? registry
      (Moment.start limit) = none := by
  have later := sound.run (within_start limit) registry count
  -- the channel as if all that has come had been read
  let read : Hub := { Hub.run registry (Moment.start limit) count h with inbox := [] }
  have unread : read.unreadAfter (Hub.run registry (Moment.start limit) count h).inbox =
      Hub.run registry (Moment.start limit) count h := by
    simp only [read, unreadAfter, List.append_nil]
  have soundRead : read.Sound limit :=
    ⟨later.isOpen, later.waiting, fun a member => absurd member List.not_mem_nil⟩
  obtain ⟨more, same⟩ := runToMessage_eq_run registry (Moment.start limit) (read.fresh.length + 1) read
  have enough := soundRead.runToMessage_enough (within_start limit) registry (read.fresh.length + 1)
    (Nat.lt_succ_self _)
  rw [same] at enough
  have ran : Hub.run registry (Moment.start limit) (count + more) h =
      (Hub.run registry (Moment.start limit) more read).unreadAfter
        (Hub.run registry (Moment.start limit) count h).inbox := by
    rw [run_add, ← run_unreadAfter, unread]
  have silent : (Hub.run registry (Moment.start limit) more read).inbox = [] := by
    have short := (whole (count + more)).length_le
    rw [arrivals, arrivals, ran, List.length_map, List.length_map] at short
    rw [unreadAfter, List.length_append] at short
    exact List.eq_nil_of_length_eq_zero (by omega)
  refine ⟨count + more, ?_⟩
  rw [ran, step?_unreadAfter, enough.resolve_left (not_not.2 silent)]
  rfl

/-- On a channel that comes to rest nothing more comes. -/
theorem arrivals_of_rest
    (still : (Hub.run registry (Moment.start limit) count h).step? registry (Moment.start limit) = none)
    (k : Nat) : h.arrivals registry limit k <+: h.arrivals registry limit count := by
  have more := arrivals_mono registry limit (Nat.le_add_left k count) h
  rw [arrivals, arrivals, run_add, run_of_still still] at more
  exact more

/--
What comes on the whole is made up of what comes on the first, as originals, and on the second, as
echoes; when nothing more comes on the whole nothing more comes on either.
-/
theorem Resounds.arrivals (resounds : Resounds registry known a b h) (sound : h.Sound limit)
    (whole : ∀ k, h.arrivals registry limit k <+: h.arrivals registry limit count) :
    Echoes ∅ (a.arrivals registry limit count) (b.arrivals registry limit count)
        (h.arrivals registry limit count) ∧
      ∀ k, a.arrivals registry limit k <+: a.arrivals registry limit count := by
  obtain ⟨all, still⟩ := sound.exists_still whole
  obtain ⟨knownLast, i, j, -, -, last⟩ := resounds.run (Moment.start limit) all
  obtain ⟨knownNow, i', j', few, few', now⟩ := resounds.run (Moment.start limit) count
  obtain ⟨stillA, stillB⟩ := last.still still
  have made : Echoes ∅ (a.arrivals registry limit i) (b.arrivals registry limit j)
      (h.arrivals registry limit all) := last.inbox.map Arrival.message
  have sofar : Echoes ∅ (a.arrivals registry limit i') (b.arrivals registry limit j')
      (h.arrivals registry limit count) := now.inbox.map Arrival.message
  have same : h.arrivals registry limit all = h.arrivals registry limit count :=
    (whole all).eq_of_length (Nat.le_antisymm (whole all).length_le
      (arrivals_of_rest still count).length_le)
  -- so many messages have come on the whole that nothing can be missing on either of the two
  have total := made.length_eq
  have sum := sofar.length_eq
  rw [same] at total made
  have beforeA := (arrivals_mono registry limit few a).length_le
  have beforeB := (arrivals_mono registry limit few' b).length_le
  have wholeA := arrivals_of_rest stillA
  have atMostA := (wholeA count).length_le
  have atMostB := (arrivals_of_rest stillB count).length_le
  have sameA := (wholeA count).eq_of_length (by omega)
  have sameB := (arrivals_of_rest stillB count).eq_of_length (by omega)
  rw [sameA, sameB]
  exact ⟨made, wholeA⟩

end Hub

end RollCall
