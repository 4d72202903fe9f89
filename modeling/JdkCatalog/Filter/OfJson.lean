import JdkCatalog.Filter
import JdkCatalog.Json

/-!
# Filters in JSON

The filter that a JSON value describes.  Every value describes one: what is
not understood becomes an unrecognized filter with the compact text of the
value.
-/

namespace JdkCatalog.Filter

/-- The bound that a member of a range describes.  A member that is absent or
`null` leaves the side open. -/
def boundOfJson : Option Json → Option Bound
  | none => none
  | some .null => none
  | some (.string s) => some (Bound.parse s)
  | some other => some (.malformed other.text)

/-- The kind of filter that an object names. -/
def kind? (members : List (String × Json)) : Option String :=
  (members.lookup "type").bind Json.string?

/-- The filter that a value describes. -/
def ofJson : Json → Filter
  | .bool value => literal value
  | .object members =>
    let other := unrecognized (Json.object members).text
    match kind? members with
    | some "and" => ((itemsOf members).map all).getD other
    | some "or" => ((itemsOf members).map any).getD other
    | some "not" => ((itemOf members).map negation).getD other
    | some "build_number_range" =>
      builds (boundOfJson (members.lookup "since")) (boundOfJson (members.lookup "until"))
    | _ => other
  | other => unrecognized other.text
where
  /-- The filters in the array `items`. -/
  itemsOf : List (String × Json) → Option (List Filter)
    | [] => none
    | (key, value) :: members =>
      if "items" == key then ofArray value else itemsOf members
  /-- The filters that the elements of an array describe. -/
  ofArray : Json → Option (List Filter)
    | .array values => some (ofValues values)
    | _ => none
  /-- The filter in the member `item`. -/
  itemOf : List (String × Json) → Option Filter
    | [] => none
    | (key, value) :: members =>
      if "item" == key then some (ofJson value) else itemOf members
  /-- The filters that several values describe. -/
  ofValues : List Json → List Filter
    | [] => []
    | value :: values => ofJson value :: ofValues values

theorem ofJson.ofValues_eq_map (values : List Json) : ofValues values = values.map ofJson := by
  induction values with
  | nil => rfl
  | cons value values ih => rw [ofValues, ih, List.map_cons]

theorem ofJson.ofArray_eq (value : Json) :
    ofArray value = value.array?.map (·.map ofJson) := by
  cases value with
  | array values => exact congrArg some (ofValues_eq_map values)
  | _ => rfl

theorem ofJson.itemsOf_eq (members : List (String × Json)) :
    itemsOf members = ((members.lookup "items").bind Json.array?).map (·.map ofJson) := by
  induction members with
  | nil => rfl
  | cons member members ih =>
    obtain ⟨key, value⟩ := member
    rw [itemsOf, List.lookup_cons]
    cases "items" == key with
    | false => exact ih
    | true => exact ofArray_eq value

theorem ofJson.itemOf_eq (members : List (String × Json)) :
    itemOf members = (members.lookup "item").map ofJson := by
  induction members with
  | nil => rfl
  | cons member members ih =>
    obtain ⟨key, value⟩ := member
    rw [itemOf, List.lookup_cons]
    cases "item" == key with
    | false => exact ih
    | true => rfl

end JdkCatalog.Filter
