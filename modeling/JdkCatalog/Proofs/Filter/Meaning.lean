import JdkCatalog.Filter.OfJson
import JdkCatalog.Proofs.Filter.Evaluation
import JdkCatalog.Proofs.Json.Parts

/-!
# The meaning of conditions in JSON

A feed writes its conditions as JSON values.  `Json.meaning` interprets such a
value for a build directly, by recursion on the value: there is no tree in
between, and the connectives look at all their operands.  The result of this
module, `evaluate?_ofJson`, is that reading a value into a filter and
evaluating the filter comes to the same.

The interpretation is recursive through the members of objects, so the
recursion is on the size of the value, and `Json.sizeOf_lt_of_lookup` is what
makes it terminate.
-/

namespace JdkCatalog

namespace Json

/-! ## The interpretation -/

/-- The end of a range that a member states: `none` if what it states is no
build number, and `some none` if it leaves the side open. -/
def statedEnd? (key : String) (members : List (String × Json)) : Option (Option BuildNumber) :=
  match given? key members with
  | none => some none
  | some (string s) => (BuildNumber.parse s).toOption.map some
  | some _ => none

/-- The meaning of a range: the build lies between the ends, both included, if
both sides are understood. -/
def rangeMeaning (build : BuildNumber) (members : List (String × Json)) : Verdict :=
  match statedEnd? "since" members, statedEnd? "until" members with
  | some earliest, some latest =>
    Verdict.ofBool (earliest.all (fun b => (compare b build).isLE) &&
      latest.all (fun b => (compare build b).isLE))
  | _, _ => .unknown

/-- The meaning of a value as a condition on a build. -/
def meaning (build : BuildNumber) : Json → Verdict
  | bool value => Verdict.ofBool value
  | object members =>
    match members.lookup "type" with
    | some (string "and") =>
      match _hitems : members.lookup "items" with
      | some (array values) =>
        if values.isEmpty then .fails
        else Verdict.allOf (values.attach.map fun value => meaning build value.1)
      | _ => .unknown
    | some (string "or") =>
      match _hitems : members.lookup "items" with
      | some (array values) =>
        if values.isEmpty then .fails
        else Verdict.anyOf (values.attach.map fun value => meaning build value.1)
      | _ => .unknown
    | some (string "not") =>
      match _hitem : members.lookup "item" with
      | some value => (meaning build value).not
      | none => .unknown
    | some (string "build_number_range") => rangeMeaning build members
    | _ => .unknown
  | _ => .unknown
termination_by value => sizeOf value
decreasing_by
  · exact Nat.lt_trans (sizeOf_lt_of_mem value.2) (sizeOf_lt_of_lookup _hitems)
  · exact Nat.lt_trans (sizeOf_lt_of_mem value.2) (sizeOf_lt_of_lookup _hitems)
  · exact sizeOf_lt_of_lookup _hitem

end Json

namespace Filter

/-! ## The filter of an object -/

/-- What the member `items` describes, if it is an array. -/
theorem getD_map_itemsOf (members : List (String × Json)) (f : List Filter → Filter)
    (other : Filter) :
    ((ofJson.itemsOf members).map f).getD other =
      match members.lookup "items" with
      | some (.array values) => f (values.map ofJson)
      | _ => other := by
  rw [ofJson.itemsOf_eq]
  rcases members.lookup "items" with _ | value
  · rfl
  · cases value <;> rfl

/-- The filter of an object, by what its members are found to be. -/
theorem ofJson_object (members : List (String × Json)) :
    ofJson (.object members) =
      match members.lookup "type" with
      | some (.string "and") =>
        match members.lookup "items" with
        | some (.array values) => all (values.map ofJson)
        | _ => unrecognized (Json.object members).text
      | some (.string "or") =>
        match members.lookup "items" with
        | some (.array values) => any (values.map ofJson)
        | _ => unrecognized (Json.object members).text
      | some (.string "not") =>
        match members.lookup "item" with
        | some value => negation (ofJson value)
        | none => unrecognized (Json.object members).text
      | some (.string "build_number_range") =>
        builds (boundOfJson (members.lookup "since")) (boundOfJson (members.lookup "until"))
      | _ => unrecognized (Json.object members).text := by
  rw [ofJson, kind?, getD_map_itemsOf, getD_map_itemsOf, ofJson.itemOf_eq]
  rcases members.lookup "type" with _ | kind
  · rfl
  cases kind with
  | string kind =>
    simp only [Option.bind_some, Json.string?]
    split <;> rename_i hkind
    · cases hkind; rfl
    · cases hkind; rfl
    · cases hkind
      cases members.lookup "item" <;> rfl
    · cases hkind; rfl
    · split <;> simp_all
  | _ => rfl

/-- The filter of an object is a list of the filters of smaller values, the negation of
one, a range, or of an unknown kind. -/
theorem ofJson_object_cases (members : List (String × Json)) :
    (∃ values, members.lookup "items" = some (.array values) ∧
      (ofJson (.object members) = all (values.map ofJson) ∨
        ofJson (.object members) = any (values.map ofJson))) ∨
    (∃ value, members.lookup "item" = some value ∧
      ofJson (.object members) = negation (ofJson value)) ∨
    (∃ earliest latest, ofJson (.object members) = builds earliest latest) ∨
    ofJson (.object members) = unrecognized (Json.object members).text := by
  rw [ofJson_object]
  split
  · split
    next values hitems => exact .inl ⟨values, hitems, .inl rfl⟩
    next => exact .inr (.inr (.inr rfl))
  · split
    next values hitems => exact .inl ⟨values, hitems, .inr rfl⟩
    next => exact .inr (.inr (.inr rfl))
  · split
    next value hitem => exact .inr (.inl ⟨value, hitem, rfl⟩)
    next => exact .inr (.inr (.inr rfl))
  · exact .inr (.inr (.inl ⟨_, _, rfl⟩))
  · exact .inr (.inr (.inr rfl))

/-! ## The bounds of a range -/

/-- A bound is malformed, absent or a build number, as the member states no
end, an open side or a build number. -/
theorem boundOfJson_cases (key : String) (members : List (String × Json)) :
    (Json.statedEnd? key members = none ∧
      ∃ text, boundOfJson (members.lookup key) = some (.malformed text)) ∨
    ∃ stated, Json.statedEnd? key members = some stated ∧
      boundOfJson (members.lookup key) = stated.map .build := by
  rw [Json.statedEnd?, Json.given?]
  rcases members.lookup key with _ | value
  · exact .inr ⟨none, rfl, rfl⟩
  cases value with
  | null => exact .inr ⟨none, rfl, rfl⟩
  | string s =>
    simp only [boundOfJson, Bound.parse]
    cases BuildNumber.parse s with
    | error e => exact .inl ⟨rfl, s, rfl⟩
    | ok b => exact .inr ⟨some b, rfl, rfl⟩
  | _ => exact .inl ⟨rfl, _, rfl⟩

theorem evaluateRange_boundOfJson (build : BuildNumber) (members : List (String × Json)) :
    evaluateRange build (boundOfJson (members.lookup "since"))
      (boundOfJson (members.lookup "until")) = Json.rangeMeaning build members := by
  rw [Json.rangeMeaning]
  obtain ⟨hsince, text, hearliest⟩ | ⟨earliest, hsince, hearliest⟩ :=
    boundOfJson_cases "since" members
  · rw [hsince, hearliest, evaluateRange_malformed_left]
  obtain ⟨huntil, text, hlatest⟩ | ⟨latest, huntil, hlatest⟩ := boundOfJson_cases "until" members
  · rw [huntil, hlatest, hsince, evaluateRange_malformed_right]
  · rw [hsince, hearliest, huntil, hlatest, evaluateRange_build]

/-! ## The result -/

/-- Where the filters of the elements of an array evaluate to the meanings of
the elements, both sides fold the same verdicts. -/
theorem map_evaluate_ofJson {build : BuildNumber} {values : List Json}
    (hvalues : ∀ value ∈ values, evaluate build (ofJson value) = value.meaning build) :
    (values.map ofJson).map (evaluate build) =
      values.attach.map fun value => value.1.meaning build := by
  rw [List.attach_map_val, List.map_map]
  exact List.map_congr_left hvalues

/-- Reading a value into a filter and evaluating the filter gives the meaning
of the value, for every value and every build. -/
theorem evaluate?_ofJson (build : BuildNumber) (value : Json) :
    evaluate? build (some (ofJson value)) = value.meaning build := by
  rw [evaluate?]
  -- The cases are those of the interpretation, with the result for the parts.
  fun_induction Json.meaning build value with
  | case1 value => rfl
  | case2 members htype values hitems hempty | case5 members htype values hitems hempty =>
    rw [List.isEmpty_iff.mp hempty] at hitems
    simp only [ofJson_object, htype, hitems]
    rfl
  | case3 members htype values hitems hempty ih =>
    have hvalues : values.map ofJson ≠ [] := by simpa using hempty
    simp only [ofJson_object, htype, hitems]
    rw [evaluate_all build hvalues, map_evaluate_ofJson fun value hmem => ih ⟨value, hmem⟩]
  | case6 members htype values hitems hempty ih =>
    simp only [ofJson_object, htype, hitems]
    rw [evaluate_any, map_evaluate_ofJson fun value hmem => ih ⟨value, hmem⟩]
  | case4 members htype hitems | case7 members htype hitems =>
    simp only [ofJson_object, htype]
    rfl
  | case8 members htype value hitem ih =>
    simp only [ofJson_object, htype, hitem]
    rw [evaluate, ih]
  | case9 members htype hitem =>
    simp only [ofJson_object, htype, hitem]
    rfl
  | case10 members htype =>
    simp only [ofJson_object, htype]
    rw [evaluate, evaluateRange_boundOfJson]
  | case11 members =>
    simp only [ofJson_object]
    rfl
  | case12 value hbool hobject =>
    cases value with
    | bool value => exact absurd rfl (hbool value)
    | object members => exact absurd rfl (hobject members)
    | _ => rfl

end Filter

end JdkCatalog
