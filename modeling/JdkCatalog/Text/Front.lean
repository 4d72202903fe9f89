/-!
# The front of a text

Taking a given text off the front of another.
-/

namespace JdkCatalog.Text

/-- What follows `front` at the start of a text, if the text starts so. -/
def afterFront? : (front cs : List Char) → Option (List Char)
  | [], cs => some cs
  | _ :: _, [] => none
  | f :: front, c :: cs => if f = c then afterFront? front cs else none

theorem afterFront?_eq_some_iff {front cs rest : List Char} :
    afterFront? front cs = some rest ↔ cs = front ++ rest := by
  induction front generalizing cs with
  | nil => simp [afterFront?]
  | cons f front ih =>
      cases cs with
      | nil => simp [afterFront?]
      | cons c cs =>
        by_cases h : f = c
        · simp [afterFront?, h, ih]
        · simp [afterFront?, h, Ne.symm h]

end JdkCatalog.Text
