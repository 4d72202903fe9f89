import JdkCatalog.Json

/-!
# Parts of values

The parts of arrays and objects are smaller than these, so that recursion through them
ends.
-/

namespace JdkCatalog.Json

/-- An element is smaller than its array. -/
theorem sizeOf_lt_of_mem {values : List Json} {value : Json} (hmem : value ∈ values) :
    sizeOf value < sizeOf (array values) := by
  have hsize := List.sizeOf_lt_of_mem hmem
  simp
  omega

/-- The value of a member is smaller than the object. -/
theorem sizeOf_lt_of_member {members : List (String × Json)} {member : String × Json}
    (hmem : member ∈ members) : sizeOf member.2 < sizeOf (object members) := by
  have hsize := List.sizeOf_lt_of_mem hmem
  obtain ⟨key, value⟩ := member
  simp at hsize ⊢
  omega

theorem sizeOf_lt_of_lookup {members : List (String × Json)} {key : String} {value : Json}
    (hlookup : members.lookup key = some value) : sizeOf value < sizeOf (object members) := by
  obtain ⟨before, after, rfl, -⟩ := List.lookup_eq_some_iff.mp hlookup
  have hmem : (key, value) ∈ before ++ (key, value) :: after := by simp
  exact sizeOf_lt_of_member hmem

end JdkCatalog.Json
