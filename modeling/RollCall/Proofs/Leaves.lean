import RollCall.Message.Classify

set_option autoImplicit false

/-!
The grammar of replies. A payload has leaf texts or is not recognized at all; what is classified
from it depends on these leaves alone, however they are grouped.
-/
namespace RollCall

namespace Json

/-- The value under a key is one of the object. -/
theorem mem_of_lookup {key : String} {v : Json} {fields : List (String × Json)}
    (found : lookup key fields = some v) : (key, v) ∈ fields := by
  obtain ⟨before, after, rfl, -⟩ := List.lookup_eq_some_iff.1 found
  simp

/--
The value that an object stands for: the first that applies of a string under `text`, a string under
`content`, a list under `parts`, and whatever is under `message`.
-/
def voice? (fields : List (String × Json)) : Option Json :=
  match lookup "text" fields, lookup "content" fields, lookup "parts" fields with
  | some (.string s), _, _ => some (.string s)
  | _, some (.string s), _ => some (.string s)
  | _, _, some (.array items) => some (.array items)
  | _, _, _ => lookup "message" fields

theorem exists_mem_of_voice? {fields : List (String × Json)} {v : Json}
    (voice : voice? fields = some v) : ∃ key, (key, v) ∈ fields := by
  unfold voice? at voice
  split at voice
  · rename_i text
    cases voice
    exact ⟨_, mem_of_lookup text⟩
  · rename_i content _
    cases voice
    exact ⟨_, mem_of_lookup content⟩
  · rename_i parts _ _
    cases voice
    exact ⟨_, mem_of_lookup parts⟩
  · exact ⟨_, mem_of_lookup voice⟩

theorem sizeOf_lt_of_voice? {fields : List (String × Json)} {v : Json}
    (voice : voice? fields = some v) : sizeOf v < sizeOf (Json.object fields) := by
  obtain ⟨key, member⟩ := exists_mem_of_voice? voice
  have inner := List.sizeOf_lt_of_mem member
  simp only [Prod.mk.sizeOf_spec] at inner
  simp only [object.sizeOf_spec]
  omega

/--
The leaf texts of a value, if it is recognized. A string is its own leaf unless it is blank, a list
has the leaves of those items that are recognized, and an object those of what it stands for.
-/
def leaves? : Json → Option (List String)
  | .string s => some (if Text.isBlank s then [] else [s])
  | .array items => some (items.flatMap fun v => (leaves? v).getD [])
  | .object fields =>
    match _voice : voice? fields with
    | some v => leaves? v
    | none => none
  | _ => none
termination_by v => sizeOf v
decreasing_by
  · rename_i member
    have inner := List.sizeOf_lt_of_mem member
    simp only [array.sizeOf_spec]
    omega
  · exact sizeOf_lt_of_voice? _voice

theorem leaves?_array (items : List Json) :
    leaves? (.array items) = some (items.flatMap fun v => (leaves? v).getD []) := by
  rw [leaves?]

theorem leaves?_object (fields : List (String × Json)) :
    leaves? (.object fields) = (voice? fields).bind leaves? := by
  rw [leaves?]
  cases voice? fields <;> rfl

/-- Leaves are never blank. -/
theorem not_isBlank_of_mem_leaves? {v : Json} {ls : List String} (leaves : v.leaves? = some ls) :
    ∀ s ∈ ls, ¬ Text.isBlank s = true := by
  induction v using leaves?.induct generalizing ls with
  | case1 s =>
    rw [leaves?] at leaves
    cases leaves
    intro t member
    split at member
    · cases member
    · rename_i spoken
      rw [List.mem_singleton.1 member]
      exact spoken
  | case2 items ih =>
    rw [leaves?_array] at leaves
    cases leaves
    intro t member
    obtain ⟨v, listed, inside⟩ := List.mem_flatMap.1 member
    cases inner : v.leaves? with
    | none =>
      rw [inner] at inside
      cases inside
    | some ls =>
      rw [inner] at inside
      exact ih v listed inner t inside
  | case3 fields v voice ih =>
    rw [leaves?_object, voice] at leaves
    exact ih leaves
  | case4 fields voice =>
    rw [leaves?_object, voice] at leaves
    cases leaves
  | case5 v notString notArray notObject =>
    rw [leaves?] at leaves
    · cases leaves
    · exact notString
    · exact notArray
    · exact notObject

end Json

namespace Extracted

def ofLeaves : Option (List String) → Extracted
  | some ls => ofTexts ls
  | none => .unrecognized

theorem ofParts_eq (fields : List (String × Json)) :
    ofParts fields = (Json.lookup "parts" fields).bind fun v =>
      match v with
      | .array items => some (ofTexts (textsOf items))
      | _ => none := by
  induction fields with
  | nil => rfl
  | cons f rest ih =>
    obtain ⟨k, v⟩ := f
    unfold Json.lookup at ih ⊢
    unfold ofParts
    by_cases own : k = "parts"
    · subst own
      rfl
    · have other : ("parts" == k) = false := beq_false_of_ne (Ne.symm own)
      rw [if_neg own, List.lookup_cons, other, ih]

theorem ofMessage_eq (fields : List (String × Json)) :
    ofMessage fields = (Json.lookup "message" fields).map ofJson := by
  induction fields with
  | nil => rfl
  | cons f rest ih =>
    obtain ⟨k, v⟩ := f
    unfold Json.lookup at ih ⊢
    rw [ofMessage, List.lookup_cons, ih]
    by_cases own : k = "message"
    · subst own
      rfl
    · have other : ("message" == k) = false := beq_false_of_ne (Ne.symm own)
      rw [if_neg own, other]

/-- In an object is found what is found in the value that it stands for. -/
theorem ofJson_object (fields : List (String × Json)) :
    ofJson (.object fields) = ((Json.voice? fields).map ofJson).getD .unrecognized := by
  rw [ofJson, ofMessage_eq]
  fun_cases Json.voice? fields with
  | case1 s text => simp [text, ofJson]
  | case2 s content text => simp [content, ofJson]
  | case3 items parts text content => simp [ofParts_eq, parts, ofJson]
  | case4 text content parts =>
    have noParts : ofParts fields = none := by
      rw [ofParts_eq, Option.bind_eq_none_iff]
      intro v found
      split
      · exact (parts _ found).elim
      · rfl
    rw [noParts]
    cases Json.lookup "message" fields <;> simp

theorem flatten_ne_nil {groups : List (List String)} (some : groups ≠ [])
    (full : ∀ g ∈ groups, g ≠ []) : groups.flatten ≠ [] := by
  obtain ⟨g, member⟩ := List.exists_mem_of_ne_nil groups some
  intro nothing
  exact full g member (List.flatten_eq_nil_iff.1 nothing g member)

/-- Lines of lines are lines: groups of texts make the same text as the texts themselves. -/
theorem intercalate_flatten {sep : String} {groups : List (List String)}
    (full : ∀ g ∈ groups, g ≠ []) :
    sep.intercalate (groups.map sep.intercalate) = sep.intercalate groups.flatten := by
  induction groups with
  | nil => rfl
  | cons g rest ih =>
    obtain ⟨first, later⟩ := List.forall_mem_cons.1 full
    rw [List.map_cons, List.flatten_cons]
    by_cases last : rest = []
    · subst last
      simp
    · rw [String.intercalate_cons_of_ne_nil (by simpa using last), ih later,
        String.intercalate_append_of_ne_nil first (flatten_ne_nil last later)]

theorem ofTexts_of_ne_nil {ls : List String} (spoken : ls ≠ []) :
    ofTexts ls = .text ("\n".intercalate ls) := by
  cases ls with
  | nil => exact absurd rfl spoken
  | cons s rest => rfl

/-- The texts of items are the leaves of each item, made one. -/
theorem textsOf_eq {items : List Json} (each : ∀ v ∈ items, ofJson v = ofLeaves v.leaves?) :
    textsOf items = ((items.map fun v => v.leaves?.getD []).filter (· ≠ [])).map
      "\n".intercalate := by
  induction items with
  | nil => rfl
  | cons v rest ih =>
    obtain ⟨first, later⟩ := List.forall_mem_cons.1 each
    rw [textsOf, first, List.map_cons, List.filter_cons, ih later]
    cases v.leaves? with
    | none => rfl
    | some ls => cases ls <;> rfl

/-- Texts that are grouped by items say the same as the leaves of all items together. -/
theorem ofTexts_textsOf {items : List Json} (each : ∀ v ∈ items, ofJson v = ofLeaves v.leaves?) :
    ofTexts (textsOf items) = ofTexts (items.flatMap fun v => v.leaves?.getD []) := by
  rw [textsOf_eq each, List.flatMap_def, ← List.flatten_filter_ne_nil]
  generalize grouped : (items.map fun v => v.leaves?.getD []).filter (· ≠ []) = groups
  have full : ∀ g ∈ groups, g ≠ [] := by
    rw [← grouped]
    intro g member
    exact of_decide_eq_true (List.mem_filter.1 member).2
  by_cases silent : groups = []
  · rw [silent]
    rfl
  · rw [ofTexts_of_ne_nil (flatten_ne_nil silent full),
      ofTexts_of_ne_nil (by simpa using silent), intercalate_flatten full]

/-- What is found in a value depends on its leaves alone. -/
theorem ofJson_eq (v : Json) : ofJson v = ofLeaves v.leaves? := by
  induction v using Json.leaves?.induct with
  | case1 s =>
    rw [ofJson, Json.leaves?, ofString]
    split <;> simp [ofLeaves, ofTexts]
  | case2 items ih =>
    rw [ofJson, Json.leaves?_array]
    exact ofTexts_textsOf ih
  | case3 fields v voice ih =>
    rw [ofJson_object, Json.leaves?_object, voice]
    exact ih
  | case4 fields voice =>
    rw [ofJson_object, Json.leaves?_object, voice]
    rfl
  | case5 v notString notArray notObject =>
    rw [ofJson, Json.leaves?] <;> first | assumption | rfl

end Extracted

/-- A list says the same whether some of its items stand in a list of their own or not. -/
theorem Json.leaves?_regrouped (before items after : List Json) :
    leaves? (.array (before ++ .array items :: after)) =
      leaves? (.array (before ++ items ++ after)) := by
  simp [leaves?_array]

/-- A text of lines has every character of each line. -/
theorem mem_toList_intercalate {sep s : String} {ls : List String} (listed : s ∈ ls) {c : Char}
    (member : c ∈ s.toList) : c ∈ (sep.intercalate ls).toList := by
  induction ls with
  | nil => cases listed
  | cons t rest ih =>
    by_cases last : rest = []
    · subst last
      rw [List.mem_singleton.1 listed] at member
      simpa using member
    · rw [String.intercalate_cons_of_ne_nil last, String.toList_append, String.toList_append]
      rcases List.mem_cons.1 listed with rfl | later
      · exact List.mem_append_left _ (List.mem_append_left _ member)
      · exact List.mem_append_right _ (ih later)

namespace ReplyBody

/-- The first characters of an unrecognized payload, on which its failure ends. -/
theorem take_print (v : Json) : v.print.take shownCharacters =
    v.render.toList.take (min 120 v.render.length) := by
  rw [Json.render, String.toList_ofList, String.length_ofList, ← List.take_eq_take_min]
  rfl

variable {v : Json}

/-- A payload is classified by its leaves. -/
theorem classify_payload (v : Json) : (payload v).classify = match v.leaves? with
    | some [] => .error ⟨.emptyReply, "reply contained no text content"⟩
    | some ls => .ok ("\n".intercalate ls)
    | none => .error ⟨.malformedReply, "unrecognized reply shape: " ++
        String.ofList (v.render.toList.take (min 120 v.render.length))⟩ := by
  rw [classify, Extracted.ofJson_eq, take_print]
  cases v.leaves? with
  | none => rfl
  | some ls => cases ls <;> rfl

theorem classify_eq_ok_iff {t : String} : (payload v).classify = .ok t ↔
    ∃ ls, v.leaves? = some ls ∧ ls ≠ [] ∧ t = "\n".intercalate ls := by
  rw [classify_payload]
  split
  · simp [*]
  · rename_i ls spoken leaves
    have some : ls ≠ [] := spoken
    simp [leaves, some, eq_comm]
  · simp [*]

theorem classify_eq_emptyReply_iff :
    (∃ d, (payload v).classify = .error ⟨.emptyReply, d⟩) ↔ v.leaves? = some [] := by
  rw [classify_payload]
  split
  · simp [*]
  · rename_i ls spoken leaves
    have some : ls ≠ [] := spoken
    simp [leaves, some]
  · simp [*]

theorem classify_eq_malformedReply_iff {d : String} :
    (payload v).classify = .error ⟨.malformedReply, d⟩ ↔ v.leaves? = none ∧
      d = "unrecognized reply shape: " ++
        String.ofList (v.render.toList.take (min 120 v.render.length)) := by
  rw [classify_payload]
  split
  · simp [*]
  · simp [*]
  · simp [*, eq_comm]

/-- All that a list says is in the leaves of its items. -/
theorem classify_regrouped (before items after : List Json) :
    (payload (.array (before ++ .array items :: after))).classify =
      (payload (.array (before ++ items ++ after))).classify := by
  rw [classify_payload, classify_payload, Json.leaves?_regrouped, Json.leaves?_array]
  generalize (before ++ items ++ after).flatMap (fun v => v.leaves?.getD []) = ls
  cases ls <;> rfl

/-- Every answer has a character that is no space. -/
theorem spoken_of_classify {b : ReplyBody} {t : String} (answered : b.classify = .ok t) :
    ∃ c ∈ t.toList, Text.isSpace c = false := by
  cases b with
  | rejected reason => cases answered
  | empty => cases answered
  | payload v =>
    obtain ⟨ls, leaves, spoken, rfl⟩ := classify_eq_ok_iff.1 answered
    obtain ⟨s, listed⟩ := List.exists_mem_of_ne_nil ls spoken
    have solid := Json.not_isBlank_of_mem_leaves? leaves s listed
    rw [Text.isBlank, Bool.not_eq_true, List.all_eq_false] at solid
    obtain ⟨c, member, visible⟩ := solid
    exact ⟨c, mem_toList_intercalate listed member, Bool.eq_false_iff.2 visible⟩

/--
A payload is classified by its leaves: it says all of them, line by line, if there are any, whatever
lists they are grouped in; a recognized payload without leaves is empty, and one that is not
recognized is malformed and quoted up to 120 characters. What is said is never blank, and a refusal
keeps its reason.
-/
theorem classify_by_leaves :
    (∀ v : Json,
      (∀ t, (payload v).classify = .ok t ↔
        ∃ ls, v.leaves? = some ls ∧ ls ≠ [] ∧ t = "\n".intercalate ls) ∧
      ((∃ d, (payload v).classify = .error ⟨.emptyReply, d⟩) ↔ v.leaves? = some []) ∧
      (∀ d, (payload v).classify = .error ⟨.malformedReply, d⟩ ↔ v.leaves? = none ∧
        d = "unrecognized reply shape: " ++
          String.ofList (v.render.toList.take (min 120 v.render.length)))) ∧
    (∀ before items after : List Json,
      (payload (.array (before ++ .array items :: after))).classify =
        (payload (.array (before ++ items ++ after))).classify) ∧
    (∀ b : ReplyBody, ∀ t, b.classify = .ok t → ∃ c ∈ t.toList, Text.isSpace c = false) ∧
    ∀ reason, (rejected reason).classify = .error ⟨.remoteRejected, reason⟩ := by
  refine ⟨?_, classify_regrouped, fun b t => spoken_of_classify, fun reason => rfl⟩
  intro v
  exact ⟨fun t => classify_eq_ok_iff, classify_eq_emptyReply_iff,
    fun d => classify_eq_malformedReply_iff⟩

def rehearsal : ReplyBody :=
  .payload (.object [("content", .null), ("message", .object [("parts",
    .array [.string "a", .array [.string " ", .null, .object [("text", .string "b")]]])])])

theorem classify_by_leaves_rehearsal :
    rehearsal.classify = .ok "a\nb" ∧ ∃ c ∈ "a\nb".toList, Text.isSpace c = false := by
  obtain ⟨payloads, -, spoken, -⟩ := classify_by_leaves
  have answered : rehearsal.classify = .ok "a\nb" :=
    ((payloads _).1 _).2 ⟨["a", "b"], by cbv, by decide, by decide⟩
  exact ⟨answered, spoken rehearsal _ answered⟩

end ReplyBody

end RollCall
