import JdkCatalog.Proofs.BuildNumber.Grammar
import JdkCatalog.Proofs.Filter.Congruence
import JdkCatalog.Proofs.Filter.Meaning

/-!
# Bounds that are written in another way

The text of a build number has parts that do not count: the blanks around it,
its code, and the choice between the star and the word for a number that is
not fixed.  A filter in JSON has such texts as its bounds, and this module
says that changing them does not change its verdict.

* `BuildNumber.Respelling` relates texts that differ in these parts, and
  `BuildNumber.Respelling.exists_beq` says that they are read as equal build
  numbers.
* `Json.Respelling` is the change of one bound, at any depth of a value.
* `Filter.SameVerdicts` is what such a change preserves, one case for each way
  down into the value.
-/

namespace JdkCatalog

namespace BuildNumber

/-! ## Texts of build numbers -/

/-- The same text of a component, or one of the two texts of a number that is
not fixed for the other. -/
inductive SamePart : List Char → List Char → Prop where
  | same (part : List Char) : SamePart part part
  | word : SamePart ['*'] "SNAPSHOT".toList
  | star : SamePart "SNAPSHOT".toList ['*']

/-- Two texts of build numbers differ in the blanks around them, in the code,
and in how numbers that are not fixed are written. -/
def Respelling (s s' : String) : Prop :=
  ∃ code code' parts parts' ns ns', Spells (Text.trim s.toList) code parts ns ∧
    Spells (Text.trim s'.toList) code' parts' ns' ∧ List.Forall₂ SamePart parts parts'

theorem Component.eq_of_samePart {part part' : List Char} {n n' : UInt32}
    (h : Component part n) (h' : Component part' n') (hsame : SamePart part part') : n' = n := by
  cases hsame with
  | same => exact rightUnique h' h
  | word => rw [rightUnique h .star, rightUnique h' .snapshot]
  | star => rw [rightUnique h .snapshot, rightUnique h' .star]

theorem eq_of_forall₂_samePart {parts parts' : List (List Char)} {ns ns' : List UInt32}
    (h : List.Forall₂ Component parts ns) (h' : List.Forall₂ Component parts' ns')
    (hsame : List.Forall₂ SamePart parts parts') : ns' = ns := by
  induction hsame generalizing ns ns' with
  | nil =>
    cases h
    cases h'
    rfl
  | cons hpart _ ih =>
    cases h with
    | cons hcomponent h =>
      cases h' with
      | cons hcomponent' h' => rw [hcomponent.eq_of_samePart hcomponent' hpart, ih h h']

/-- Both texts are read, and as equal build numbers. -/
theorem Respelling.exists_beq {s s' : String} (h : Respelling s s') :
    ∃ b b', parse s = .ok b ∧ parse s' = .ok b' ∧ (b == b') = true := by
  obtain ⟨code, code', parts, parts', ns, ns', hs, hs', hsame⟩ := h
  obtain rfl : ns' = ns := eq_of_forall₂_samePart hs.components hs'.components hsame
  have hne : ns' ≠ [] := by
    rintro rfl
    exact hs.parts_ne_nil (List.forall₂_nil_right_iff.mp hs.components)
  exact ⟨⟨code, ns', hne⟩, ⟨code', ns', hne⟩, parse_of_spells hs, parse_of_spells hs',
    beq_iff.mpr rfl⟩

end BuildNumber

/-- Two texts of a bound are read as equal build numbers, or neither is one. -/
def Bound.Respelling (s s' : String) : Prop :=
  BuildNumber.Respelling s s' ∨
    ∃ e e', BuildNumber.parse s = .error e ∧ BuildNumber.parse s' = .error e'

namespace Json

/-! ## Values -/

/-- Somewhere in a value the text of one bound is changed.  What holds the
bound need not be a range, and its other members are arbitrary. -/
inductive Respelling : Json → Json → Prop where
  | bound {key s s' : String} (before after : List (String × Json))
      (hkey : key = "since" ∨ key = "until") (htext : Bound.Respelling s s') :
      Respelling (object (before ++ (key, string s) :: after))
        (object (before ++ (key, string s') :: after))
  | member {key : String} {value value' : Json} (before after : List (String × Json))
      (hvalue : Respelling value value') :
      Respelling (object (before ++ (key, value) :: after))
        (object (before ++ (key, value') :: after))
  | element {value value' : Json} (before after : List Json) (hvalue : Respelling value value') :
      Respelling (array (before ++ value :: after)) (array (before ++ value' :: after))

/-- Only arrays and objects have bounds in them. -/
theorem Respelling.shape {value value' : Json} (h : Respelling value value') :
    (∃ items items', value = array items ∧ value' = array items') ∨
      ∃ members members', value = object members ∧ value' = object members' := by
  cases h with
  | bound | member => exact .inr ⟨_, _, rfl, rfl⟩
  | element => exact .inl ⟨_, _, rfl, rfl⟩

/-- Where one member is replaced, another one is found in its place, or nothing
changes. -/
theorem lookup_replace (before after : List (String × Json)) (key : String) (value value' : Json)
    (name : String) :
    (before ++ (key, value') :: after).lookup name =
        (before ++ (key, value) :: after).lookup name ∨
      name = key ∧ (before ++ (key, value) :: after).lookup name = some value ∧
        (before ++ (key, value') :: after).lookup name = some value' := by
  rw [List.lookup_append, List.lookup_append, List.lookup_cons, List.lookup_cons]
  cases before.lookup name with
  | some other => exact .inl rfl
  | none =>
    cases hname : name == key with
    | false => exact .inl rfl
    | true => exact .inr ⟨beq_iff_eq.mp hname, rfl, rfl⟩

/-- What is made of a member is the same after a change that it does not
show. -/
theorem bind_lookup_replace {β : Type} {key : String} {value value' : Json}
    (before after : List (String × Json)) (name : String) {f : Json → Option β}
    (h : name = key → f value' = f value) :
    ((before ++ (key, value') :: after).lookup name).bind f =
      ((before ++ (key, value) :: after).lookup name).bind f := by
  obtain heq | ⟨hname, hs, hs'⟩ := lookup_replace before after key value value' name
  · rw [heq]
  · rw [hs, hs']
    exact h hname

/-- A member that is no bound stays as it is, or the change is in it. -/
theorem lookup_respelling {members members' : List (String × Json)} {name : String}
    (h : Respelling (object members) (object members'))
    (hname : name ≠ "since" ∧ name ≠ "until") :
    members'.lookup name = members.lookup name ∨
      ∃ value value', members.lookup name = some value ∧ members'.lookup name = some value' ∧
        value.Respelling value' := by
  cases h with
  | @bound key s s' before after hkey htext =>
    obtain heq | ⟨rfl, -, -⟩ := lookup_replace before after key (string s) (string s') name
    · exact .inl heq
    · exact absurd hkey (not_or.mpr hname)
  | @member key value value' before after hvalue =>
    obtain heq | ⟨-, hs, hs'⟩ := lookup_replace before after key value value' name
    · exact .inl heq
    · exact .inr ⟨value, value', hs, hs', hvalue⟩

/-- No text of a member is changed but those of bounds. -/
theorem bind_string?_respelling {members members' : List (String × Json)} {name : String}
    (h : Respelling (object members) (object members'))
    (hname : name ≠ "since" ∧ name ≠ "until") :
    (members'.lookup name).bind string? = (members.lookup name).bind string? := by
  obtain heq | ⟨value, value', hs, hs', hvalue⟩ := lookup_respelling h hname
  · rw [heq]
  · rw [hs, hs']
    obtain ⟨_, _, rfl, rfl⟩ | ⟨_, _, rfl, rfl⟩ := hvalue.shape <;> rfl

/-! ## Ranges -/

theorem statedEnd?_congr {key : String} {members members' : List (String × Json)}
    (h : members'.lookup key = members.lookup key) :
    (statedEnd? key members == statedEnd? key members') = true := by
  rw [statedEnd?, statedEnd?, given?, given?, h]
  exact BEq.rfl

theorem statedEnd?_string {key s : String} {members : List (String × Json)}
    (h : members.lookup key = some (string s)) :
    statedEnd? key members = (BuildNumber.parse s).toOption.map some := by
  rw [statedEnd?, given?, h]

theorem rangeMeaning_congr {members members' : List (String × Json)} (build : BuildNumber)
    (hsince : (statedEnd? "since" members == statedEnd? "since" members') = true)
    (huntil : (statedEnd? "until" members == statedEnd? "until" members') = true) :
    rangeMeaning build members' = rangeMeaning build members := by
  rw [rangeMeaning, rangeMeaning]
  generalize statedEnd? "since" members = e at hsince ⊢
  generalize statedEnd? "since" members' = e' at hsince ⊢
  generalize statedEnd? "until" members = l at huntil ⊢
  generalize statedEnd? "until" members' = l' at huntil ⊢
  cases e <;> cases e' <;> try cases hsince
  · rfl
  cases l <;> cases l' <;> try cases huntil
  · rfl
  change Verdict.ofBool _ = Verdict.ofBool _
  rw [Filter.all_isLE_left_congr BEq.rfl hsince, Filter.all_isLE_right_congr BEq.rfl huntil]

/-- The ends of a range state equal build numbers after a change of the text of
one. -/
theorem statedEnd?_beq_of_bound {key s s' : String} {before after : List (String × Json)}
    (htext : Bound.Respelling s s') (name : String) :
    (statedEnd? name (before ++ (key, string s) :: after) ==
      statedEnd? name (before ++ (key, string s') :: after)) = true := by
  obtain heq | ⟨-, hs, hs'⟩ := lookup_replace before after key (string s) (string s') name
  · exact statedEnd?_congr heq
  rw [statedEnd?_string hs, statedEnd?_string hs']
  obtain h | ⟨e, e', he, he'⟩ := htext
  · obtain ⟨b, b', hb, hb', hbeq⟩ := h.exists_beq
    rw [hb, hb']
    exact hbeq
  · rw [he, he']
    rfl

/-- What is an array or an object states no end of a range, before or after a
change in it. -/
theorem statedEnd?_beq_of_member {key : String} {value value' : Json}
    {before after : List (String × Json)} (hvalue : Respelling value value') (name : String) :
    (statedEnd? name (before ++ (key, value) :: after) ==
      statedEnd? name (before ++ (key, value') :: after)) = true := by
  obtain heq | ⟨-, hs, hs'⟩ := lookup_replace before after key value value' name
  · exact statedEnd?_congr heq
  rw [statedEnd?, statedEnd?, given?, given?, hs, hs']
  obtain ⟨_, _, rfl, rfl⟩ | ⟨_, _, rfl, rfl⟩ := hvalue.shape <;> rfl

end Json

namespace Filter

/-! ## Verdicts -/

/-- Two values are filters with the same verdict, and if they are arrays, their
elements are such filters one by one. -/
structure SameVerdicts (build : BuildNumber) (value value' : Json) : Prop where
  verdict : evaluate build (ofJson value') = evaluate build (ofJson value)
  elements : (ofJson.ofArray value').map (·.map (evaluate build)) =
    (ofJson.ofArray value).map (·.map (evaluate build))

/-- A part that is there or not, and where it is not, the object is not
understood. -/
theorem evaluate_getD_congr {α β : Type} {build : BuildNumber} {part part' : Option α} {g : α → β}
    {f : α → Filter} (hpart : part'.map g = part.map g)
    (hf : ∀ a a', g a' = g a → evaluate build (f a') = evaluate build (f a)) (text text' : String) :
    evaluate build ((part'.map f).getD (unrecognized text')) =
      evaluate build ((part.map f).getD (unrecognized text)) := by
  cases part <;> cases part'
  · rfl
  · cases hpart
  · cases hpart
  · exact hf _ _ (Option.some.inj hpart)

/-- The verdict of an object depends on its kind, on the verdicts of its items
and its item, and on its range. -/
theorem evaluate_ofJson_object_congr {build : BuildNumber} {members members' : List (String × Json)}
    (hkind : kind? members' = kind? members)
    (hitems : (ofJson.itemsOf members').map (·.map (evaluate build)) =
      (ofJson.itemsOf members).map (·.map (evaluate build)))
    (hitem : (ofJson.itemOf members').map (evaluate build) =
      (ofJson.itemOf members).map (evaluate build))
    (hrange : Json.rangeMeaning build members' = Json.rangeMeaning build members) :
    evaluate build (ofJson (.object members')) = evaluate build (ofJson (.object members)) := by
  rw [ofJson, ofJson, hkind]
  split
  · exact evaluate_getD_congr hitems (fun _ _ => evaluate_all_congr) _ _
  · exact evaluate_getD_congr hitems (fun _ _ => evaluate_any_congr) _ _
  · exact evaluate_getD_congr hitem (fun _ _ => congrArg Verdict.not) _ _
  · rw [evaluate, evaluate, evaluateRange_boundOfJson, evaluateRange_boundOfJson, hrange]
  · rfl

theorem map_itemsOf (build : BuildNumber) (members : List (String × Json)) :
    (ofJson.itemsOf members).map (·.map (evaluate build)) =
      (members.lookup "items").bind fun value =>
        (ofJson.ofArray value).map (·.map (evaluate build)) := by
  rw [ofJson.itemsOf_eq]
  cases members.lookup "items" with
  | none => rfl
  | some value => rw [Option.bind_some, Option.bind_some, ofJson.ofArray_eq]

theorem map_itemOf (build : BuildNumber) (members : List (String × Json)) :
    (ofJson.itemOf members).map (evaluate build) =
      (members.lookup "item").bind fun value => some (evaluate build (ofJson value)) := by
  rw [ofJson.itemOf_eq, Option.map_map, Option.map_eq_bind]
  rfl

/-- A change of the text of a bound changes no verdict, by induction on the way
down to it. -/
theorem sameVerdicts_of_respelling (build : BuildNumber) {value value' : Json}
    (h : value.Respelling value') : SameVerdicts build value value' := by
  induction h with
  | @bound key s s' before after hkey htext =>
    have hne : ∀ name ∈ ["items", "item"], name ≠ key := by
      rcases hkey with rfl | rfl <;> decide
    refine ⟨evaluate_ofJson_object_congr ?kind ?items ?item ?range, rfl⟩
    case kind => exact Json.bind_string?_respelling (.bound before after hkey htext) (by decide)
    case items =>
      rw [map_itemsOf, map_itemsOf]
      exact Json.bind_lookup_replace before after "items" fun h => absurd h (hne _ (by decide))
    case item =>
      rw [map_itemOf, map_itemOf]
      exact Json.bind_lookup_replace before after "item" fun h => absurd h (hne _ (by decide))
    case range =>
      exact Json.rangeMeaning_congr build (Json.statedEnd?_beq_of_bound htext "since")
        (Json.statedEnd?_beq_of_bound htext "until")
  | @member key value value' before after hvalue ih =>
    refine ⟨evaluate_ofJson_object_congr ?kind ?items ?item ?range, rfl⟩
    case kind => exact Json.bind_string?_respelling (.member before after hvalue) (by decide)
    case items =>
      rw [map_itemsOf, map_itemsOf]
      exact Json.bind_lookup_replace before after "items" fun _ => ih.elements
    case item =>
      rw [map_itemOf, map_itemOf]
      exact Json.bind_lookup_replace before after "item" fun _ => congrArg some ih.verdict
    case range =>
      exact Json.rangeMeaning_congr build (Json.statedEnd?_beq_of_member hvalue "since")
        (Json.statedEnd?_beq_of_member hvalue "until")
  | @element value value' before after _ ih =>
    refine ⟨rfl, ?_⟩
    rw [ofJson.ofArray_eq, ofJson.ofArray_eq]
    simp only [Json.array?, Option.map_some, List.map_append, List.map_cons, ih.verdict]

end Filter

end JdkCatalog
