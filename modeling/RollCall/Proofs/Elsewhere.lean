import RollCall.Proofs.Digits
import RollCall.Proofs.Effects

set_option autoImplicit false

/-!
Sessions beside one stream. What is not done with the stream goes on in the same way whether the
stream is held or not, and leaves the stream as it is, or lets its channel go on. Every request that
is made meanwhile has an identifier of its own.
-/
namespace RollCall

/-- The identifiers that requests are given are different, as long as they last. -/
theorem RequestId.generated_inj {m n : Nat} (few : m < twoTo 128) (fewer : n < twoTo 128)
    (same : generated m = generated n) : m = n := by
  unfold generated at same
  have texts := (RequestId.mk.injEq _ _).mp same
  have read := congrArg StepId.parse? texts
  rw [StepId.parse?_text, StepId.parse?_text] at read
  have bits := congrArg (fun s => s.bits.toNat) (Option.some.inj read)
  simp only [BitVec.toNat_ofNat] at bits
  rw [show twoTo 128 = 2 ^ 128 from rfl] at few fewer
  omega

namespace Session

section Named

variable {α : Type} {name other : String} {entries : List (String × α)}

theorem without_comm (name other : String) (entries : List (String × α)) :
    without name (without other entries) = without other (without name entries) := by
  unfold without
  rw [List.filter_filter, List.filter_filter]
  exact List.filter_congr fun e _ => Bool.and_comm _ _

theorem without_cons_self (name : String) (a : α) (entries : List (String × α)) :
    without name ((name, a) :: without name entries) = without name entries := by
  unfold without
  rw [List.filter_cons_of_neg (by simp), List.filter_filter]
  exact List.filter_congr fun e _ => Bool.and_self _

theorem without_cons_of_ne (apart : other ≠ name) (a : α) :
    without name ((other, a) :: entries) = (other, a) :: without name entries := by
  unfold without
  rw [List.filter_cons_of_pos (by simpa using apart)]

theorem lookup_without (apart : other ≠ name) :
    List.lookup other (without name entries) = List.lookup other entries := by
  induction entries with
  | nil => rfl
  | cons e rest ih =>
    obtain ⟨key, a⟩ := e
    by_cases same : key = name
    · subst same
      have cut : without key ((key, a) :: rest) = without key rest := by
        unfold without
        rw [List.filter_cons_of_neg (by simp)]
      have differs : (other == key) = false := by simpa using apart
      rw [cut, ih, List.lookup_cons, differs]
    · rw [without_cons_of_ne same, List.lookup_cons, List.lookup_cons, ih]

theorem lookup_replace (apart : other ≠ name) (later : Option α) :
    List.lookup other (replace name later entries) = List.lookup other entries := by
  unfold replace
  cases later with
  | none => exact lookup_without apart
  | some a =>
    have differs : (other == name) = false := by simpa using apart
    rw [Option.map_some, Option.toList_some, List.singleton_append, List.lookup_cons, differs]
    exact lookup_without apart

theorem without_replace (apart : other ≠ name) (later : Option α) :
    without name (replace other later entries) = replace other later (without name entries) := by
  unfold replace
  cases later with
  | none => exact without_comm name other entries
  | some a =>
    rw [Option.map_some, Option.toList_some, List.singleton_append, List.singleton_append,
      without_cons_of_ne apart, without_comm]

theorem lookup_map (f : α → α) (name : String) (entries : List (String × α)) :
    List.lookup name (entries.map fun e => (e.1, f e.2)) = (List.lookup name entries).map f := by
  induction entries with
  | nil => rfl
  | cons e rest ih =>
    rw [List.map_cons, List.lookup_cons, List.lookup_cons, ih]
    cases name == e.1 <;> rfl

theorem without_map (f : α → α) (name : String) (entries : List (String × α)) :
    without name (entries.map fun e => (e.1, f e.2)) =
      (without name entries).map fun e => (e.1, f e.2) := by
  unfold without
  rw [List.filter_map]
  rfl

theorem mem_of_lookup {a : α} (found : List.lookup name entries = some a) : (name, a) ∈ entries := by
  obtain ⟨before, after, whole, -⟩ := List.lookup_eq_some_iff.1 found
  rw [whole]
  simp

/-- What holds of all that is held still holds when something of the kind takes a place. -/
theorem forall_mem_replace {P : String → α → Prop} (all : ∀ e ∈ entries, P e.1 e.2)
    {later : Option α} (new : ∀ a ∈ later, P name a) : ∀ e ∈ replace name later entries, P e.1 e.2 := by
  intro e member
  rcases List.mem_append.1 member with own | kept
  · obtain ⟨a, taken, rfl⟩ := List.mem_map.1 (Option.toList_map .. ▸ own)
    exact new a (Option.mem_toList.1 taken)
  · exact all e (List.mem_filter.1 kept).1

end Named

def Act.stream? : Act → Option String
  | .openStream name _ _ _ => some name
  | .nextEvent name => some name
  | .glance name _ => some name
  | .dropStream name => some name
  | _ => none

def Act.request? : Act → Option RequestId
  | .dispatch _ request => some request.requestId
  | _ => none

/-- The session without the stream under a name, as though there had been none. -/
def forget (name : String) (s : Session) : Session :=
  { s with streams := without name s.streams }

variable {name other : String} {s : Session} {a : Act}

theorem stream?_forget (apart : other ≠ name) (s : Session) :
    (s.forget name).stream? other = s.stream? other :=
  lookup_without apart

theorem forget_changeNetwork (change : Network → Network) (s : Session) :
    (s.changeNetwork change).forget name = (s.forget name).changeNetwork change := by
  unfold changeNetwork
  rw [show (s.forget name).world = s.world from rfl]
  split <;> rfl

theorem forget_settle (s : Session) : s.settle.forget name = (s.forget name).settle := by
  unfold settle forget
  dsimp only
  rw [without_map]

theorem abandoned_forget (apart : other ≠ name) (s : Session) (w : World) :
    (s.forget name).abandoned other w = s.abandoned other w := by
  unfold abandoned
  rw [stream?_forget apart]

theorem used_forget (apart : other ≠ name) (use : StreamUse) (s : Session) :
    (s.forget name).used other use = s.used other use := by
  unfold used
  rw [stream?_forget apart]
  rfl

theorem begun_forget (apart : other ≠ name) (s : Session)
    (o : Except Error BroadcastStream × World) :
    (s.forget name).begun other o = s.begun other o := by
  obtain ⟨_ | stream, w⟩ := o
  · rfl
  · exact congrArg (Effect.stream other (some stream)) (abandoned_forget apart s w)

/-- What is not about a stream comes to the same without it. -/
theorem effect_forget (elsewhere : a.stream? ≠ some name) :
    (s.forget name).effect a = s.effect a := by
  have apart {other : String} (own : a.stream? = some other) : other ≠ name :=
    fun same => elsewhere (own.trans (congrArg some same))
  cases a with
  | openStream other recipients payload deadline => exact begun_forget (apart rfl) s _
  | nextEvent other => exact used_forget (apart rfl) .poll s
  | glance other looks => exact used_forget (apart rfl) (.glance looks) s
  | dropStream other =>
    exact congrArg (Effect.stream other none) (abandoned_forget (apart rfl) s s.world)
  | _ => rfl

def Effect.stream? : Effect → Option String
  | .stream name _ _ => some name
  | _ => none

theorem stream?_begun (name : String) (s : Session) (o : Except Error BroadcastStream × World) :
    ∀ other ∈ (s.begun name o).stream?, other = name := by
  obtain ⟨_ | stream, w⟩ := o
  · simp [begun, Effect.stream?]
  · simp [begun, Effect.stream?, eq_comm]

theorem stream?_used (name : String) (use : StreamUse) (s : Session) :
    ∀ other ∈ (s.used name use).stream?, other = name := by
  unfold used
  cases s.stream? name with
  | none => simp [Effect.stream?]
  | some stream => simp [Effect.stream?, eq_comm]

theorem stream?_taken (name : String) (s : Session) (o : Except Error Channel × World) :
    (s.taken name o).stream? = none := by
  obtain ⟨_ | c, w⟩ := o <;> rfl

theorem stream?_published (name : String) (o : Except Error Channel × World) :
    (published name o).stream? = none := by
  obtain ⟨_ | c, w⟩ := o <;> rfl

/-- Only a stream that an act is about makes way. -/
theorem stream?_effect (elsewhere : a.stream? ≠ some name) : (s.effect a).stream? ≠ some name := by
  have apart {other : String} (own : a.stream? = some other) : other ≠ name :=
    fun same => elsewhere (own.trans (congrArg some same))
  intro own
  cases a with
  | openStream other recipients payload deadline =>
    exact apart rfl (stream?_begun other s _ name own).symm
  | nextEvent other => exact apart rfl (stream?_used other .poll s name own).symm
  | glance other looks => exact apart rfl (stream?_used other (.glance looks) s name own).symm
  | dropStream other => exact apart rfl (Option.some.inj own)
  | openChannel other topic recipients =>
    rw [effect, stream?_taken] at own
    cases own
  | publishOn other payload =>
    simp only [effect] at own
    cases named : s.channel? other with
    | none => simp [named, Effect.stream?] at own
    | some c => simp [named, stream?_published] at own
  | receiveFrom other budget =>
    simp only [effect] at own
    cases named : s.channel? other <;> simp [named, Effect.stream?] at own
  | _ => cases own

theorem forget_put {e : Effect} (elsewhere : e.stream? ≠ some name) :
    (s.put e).forget name = (s.forget name).put e := by
  cases e with
  | world w => rfl
  | stream other later w =>
    have apart : other ≠ name := fun same => elsewhere (congrArg some same)
    simp only [put, forget, without_replace apart]
  | channel other later w => rfl
  | joins recipient participant =>
    simp only [put, register]
    rw [forget_changeNetwork, forget_settle]
  | leaves recipient =>
    simp only [put, unregister]
    rw [forget_changeNetwork, forget_settle]
  | offline offline => exact forget_changeNetwork _ s

theorem forget_act (elsewhere : a.stream? ≠ some name) :
    (s.act a).forget name = (s.forget name).act a := by
  rw [act_eq_put, act_eq_put, effect_forget elsewhere, forget_put (stream?_effect elsewhere)]

theorem forget_run {acts : List Act} (elsewhere : ∀ a ∈ acts, a.stream? ≠ some name) :
    (acts.foldl act s).forget name = acts.foldl act (s.forget name) := by
  induction acts generalizing s with
  | nil => rfl
  | cons a rest ih =>
    rw [List.foldl_cons, List.foldl_cons, ← forget_act (elsewhere a List.mem_cons_self)]
    exact ih fun b member => elsewhere b (List.mem_cons_of_mem a member)

theorem stream?_put {e : Effect} (elsewhere : e.stream? ≠ some name) :
    (s.put e).stream? name = s.stream? name ∨
      (s.put e).stream? name = (s.stream? name).map
        (·.settle s.world.transport.registry s.world.clock.moment s.world.patience) := by
  have changed (change : Network → Network) (s : Session) :
      (s.changeNetwork change).stream? name = s.stream? name :=
    congrArg (List.lookup name) (office_changeNetwork change s).2.2.2
  have settled : s.settle.stream? name = (s.stream? name).map
      (·.settle s.world.transport.registry s.world.clock.moment s.world.patience) :=
    lookup_map (fun t : BroadcastStream =>
      t.settle s.world.transport.registry s.world.clock.moment s.world.patience) name s.streams
  cases e with
  | world w => exact .inl rfl
  | stream other later w =>
    have apart : other ≠ name := fun same => elsewhere (congrArg some same)
    exact .inl (lookup_replace (Ne.symm apart) later)
  | channel other later w => exact .inl rfl
  | joins recipient participant => exact .inr ((changed _ _).trans settled)
  | leaves recipient => exact .inr ((changed _ _).trans settled)
  | offline offline => exact .inl (changed _ s)

/-- What is not about a stream leaves it alone, or lets its channel go on. -/
theorem stream?_act (elsewhere : a.stream? ≠ some name) :
    (s.act a).stream? name = s.stream? name ∨
      (s.act a).stream? name = (s.stream? name).map
        (·.settle s.world.transport.registry s.world.clock.moment s.world.patience) :=
  act_eq_put s a ▸ stream?_put (stream?_effect elsewhere)

end Session

end RollCall
