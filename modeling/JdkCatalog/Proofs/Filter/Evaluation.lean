import JdkCatalog.Filter.Evaluation

/-!
# Laws of evaluation

Filters are evaluated by loops that stop early and by a case distinction on
the two ends of a range.  This module says what both compute, so that no other
proof has to look at them.

* `Verdict.allOf` and `Verdict.anyOf` fold the connectives over a list.
* `evaluate_conjunction` and `evaluate_disjunction` are the invariants of the
  two loops over a list of items: the flag of a loop stands for the verdict of
  the items so far.
* `evaluate_all` and `evaluate_any` are the results.  A conjunction differs
  from its fold in one place: without items it fails.
* `evaluateRange_build` is the verdict of a range that was understood, and
  `evaluateRange_malformed_left` and `evaluateRange_malformed_right` say that
  any other range is undecided.
-/

namespace JdkCatalog

namespace Verdict

/-- The conjunction of several verdicts. -/
def allOf (verdicts : List Verdict) : Verdict :=
  verdicts.foldl and holds

/-- The disjunction of several verdicts. -/
def anyOf (verdicts : List Verdict) : Verdict :=
  verdicts.foldl or fails

/-! ## Operands that decide, and operands that do not matter -/

@[simp] theorem fails_and (v : Verdict) : fails.and v = fails := by
  cases v <;> rfl

@[simp] theorem holds_and (v : Verdict) : holds.and v = v := by
  cases v <;> rfl

@[simp] theorem holds_or (v : Verdict) : holds.or v = holds := by
  cases v <;> rfl

@[simp] theorem fails_or (v : Verdict) : fails.or v = v := by
  cases v <;> rfl

/-- A conjunction that has failed stays so. -/
theorem foldl_and_fails (verdicts : List Verdict) : verdicts.foldl and fails = fails := by
  induction verdicts with
  | nil => rfl
  | cons v verdicts ih => rw [List.foldl_cons, fails_and, ih]

/-- A disjunction that has held stays so. -/
theorem foldl_or_holds (verdicts : List Verdict) : verdicts.foldl or holds = holds := by
  induction verdicts with
  | nil => rfl
  | cons v verdicts ih => rw [List.foldl_cons, holds_or, ih]

/-- The start of a conjunction is one more operand. -/
theorem foldl_and_eq (v : Verdict) (verdicts : List Verdict) :
    verdicts.foldl and v = v.and (allOf verdicts) := by
  induction verdicts generalizing v with
  | nil => cases v <;> rfl
  | cons w verdicts ih =>
    rw [allOf, List.foldl_cons, List.foldl_cons, ih, ih, holds_and, and_assoc]

/-- The start of a disjunction is one more operand. -/
theorem foldl_or_eq (v : Verdict) (verdicts : List Verdict) :
    verdicts.foldl or v = v.or (anyOf verdicts) := by
  induction verdicts generalizing v with
  | nil => cases v <;> rfl
  | cons w verdicts ih =>
    rw [anyOf, List.foldl_cons, List.foldl_cons, ih, ih, fails_or, or_assoc]

theorem allOf_cons (v : Verdict) (verdicts : List Verdict) :
    allOf (v :: verdicts) = v.and (allOf verdicts) := by
  rw [allOf, List.foldl_cons, holds_and, foldl_and_eq]

theorem anyOf_cons (v : Verdict) (verdicts : List Verdict) :
    anyOf (v :: verdicts) = v.or (anyOf verdicts) := by
  rw [anyOf, List.foldl_cons, fails_or, foldl_or_eq]

end Verdict

namespace Filter

/-! ## The loops -/

/-- The verdict of the items so far of a conjunction none of which has
failed. -/
def conjunctionSoFar (undecided : Bool) : Verdict :=
  if undecided then .unknown else .holds

/-- The verdict of the items so far of a disjunction none of which has
held. -/
def disjunctionSoFar (undecided : Bool) : Verdict :=
  if undecided then .unknown else .fails

theorem evaluate_conjunction (build : BuildNumber) (undecided : Bool) (items : List Filter) :
    evaluate.conjunction build undecided items =
      (items.map (evaluate build)).foldl Verdict.and (conjunctionSoFar undecided) := by
  induction items generalizing undecided with
  | nil => rfl
  | cons item items ih =>
    rw [evaluate.conjunction, List.map_cons, List.foldl_cons]
    cases evaluate build item with
    | holds =>
      have hstep : (conjunctionSoFar undecided).and .holds = conjunctionSoFar undecided := by
        cases undecided <;> rfl
      rw [hstep]
      exact ih undecided
    | fails =>
      -- The loop stops here, and the fold goes on without effect.
      rw [Verdict.and_comm, Verdict.fails_and, Verdict.foldl_and_fails]
    | unknown =>
      have hstep : (conjunctionSoFar undecided).and .unknown = conjunctionSoFar true := by
        cases undecided <;> rfl
      rw [hstep]
      exact ih true

theorem evaluate_disjunction (build : BuildNumber) (undecided : Bool) (items : List Filter) :
    evaluate.disjunction build undecided items =
      (items.map (evaluate build)).foldl Verdict.or (disjunctionSoFar undecided) := by
  induction items generalizing undecided with
  | nil => rfl
  | cons item items ih =>
    rw [evaluate.disjunction, List.map_cons, List.foldl_cons]
    cases evaluate build item with
    | holds =>
      -- The loop stops here, and the fold goes on without effect.
      rw [Verdict.or_comm, Verdict.holds_or, Verdict.foldl_or_holds]
    | fails =>
      have hstep : (disjunctionSoFar undecided).or .fails = disjunctionSoFar undecided := by
        cases undecided <;> rfl
      rw [hstep]
      exact ih undecided
    | unknown =>
      have hstep : (disjunctionSoFar undecided).or .unknown = disjunctionSoFar true := by
        cases undecided <;> rfl
      rw [hstep]
      exact ih true

/-- A conjunction with items is the conjunction of the verdicts of all of
them. -/
theorem evaluate_all (build : BuildNumber) {items : List Filter} (hitems : items ≠ []) :
    evaluate build (all items) = Verdict.allOf (items.map (evaluate build)) := by
  cases items with
  | nil => exact absurd rfl hitems
  | cons item items => exact evaluate_conjunction build false (item :: items)

/-- A disjunction is the disjunction of the verdicts of all its items. -/
theorem evaluate_any (build : BuildNumber) (items : List Filter) :
    evaluate build (any items) = Verdict.anyOf (items.map (evaluate build)) :=
  evaluate_disjunction build false items

/-! ## Ranges -/

@[simp] theorem evaluateRange_malformed_left (build : BuildNumber) (text : String)
    (latest : Option Bound) :
    evaluateRange build (some (.malformed text)) latest = .unknown :=
  rfl

@[simp] theorem evaluateRange_malformed_right (build : BuildNumber) (earliest : Option Bound)
    (text : String) :
    evaluateRange build earliest (some (.malformed text)) = .unknown := by
  rcases earliest with _ | (b | s) <;> rfl

/-- A range whose ends were understood is decided: it holds between its ends,
both included, and an end that is not there excludes nothing. -/
theorem evaluateRange_build (build : BuildNumber) (earliest latest : Option BuildNumber) :
    evaluateRange build (earliest.map .build) (latest.map .build) =
      Verdict.ofBool (earliest.all (fun b => (compare b build).isLE) &&
        latest.all (fun b => (compare build b).isLE)) := by
  cases earliest <;> cases latest <;> simp [evaluateRange]

end Filter

end JdkCatalog
