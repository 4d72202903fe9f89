import JdkCatalog.Proofs.Filter.Evaluation
import Mathlib.Order.MinMax

/-!
# The order of verdicts

A failing verdict is below an undecided one, and that is below one that holds.
In this order a conjunction is the smaller of its operands, a disjunction the
greater, and negation turns the order around.  So what a list of items comes to
is a bound, and it does not matter in which order, how often or how far the
items are looked at.

* `Verdict.le_allOf_iff` and `Verdict.anyOf_le_iff` say so of verdicts.
* `le_evaluate_all_iff` and `evaluate_any_le_iff` say so of filters.  A
  conjunction without items is the exception, since it fails.
-/

namespace JdkCatalog

namespace Verdict

/-! ## The order -/

/-- How much a verdict speaks for a condition. -/
def rank : Verdict → Nat
  | fails => 0
  | unknown => 1
  | holds => 2

theorem rank_injective : Function.Injective rank := by
  intro v w
  cases v <;> cases w <;> decide

instance : LinearOrder Verdict where
  le v w := v.rank ≤ w.rank
  le_refl v := Nat.le_refl v.rank
  le_trans _ _ _ := Nat.le_trans
  le_antisymm _ _ h h' := rank_injective (Nat.le_antisymm h h')
  le_total v w := Nat.le_total v.rank w.rank
  toDecidableLE v w := inferInstanceAs (Decidable (v.rank ≤ w.rank))
  toDecidableEq := inferInstance

@[simp] theorem fails_le (v : Verdict) : fails ≤ v := by
  cases v <;> decide

@[simp] theorem le_holds (v : Verdict) : v ≤ holds := by
  cases v <;> decide

@[simp] theorem holds_le_iff {v : Verdict} : holds ≤ v ↔ v = holds := by
  cases v <;> decide

@[simp] theorem unknown_le_iff {v : Verdict} : unknown ≤ v ↔ v ≠ fails := by
  cases v <;> decide

/-! ## Decided verdicts -/

theorem eq_unknown_iff {v : Verdict} : v = unknown ↔ v ≠ fails ∧ v ≠ holds := by
  cases v <;> decide

theorem ofBool_ne_unknown (b : Bool) : ofBool b ≠ unknown := by
  cases b <;> decide

theorem ofBool_eq_holds_iff {b : Bool} : ofBool b = holds ↔ b = true := by
  cases b <;> decide

theorem ofBool_eq_fails_iff {b : Bool} : ofBool b = fails ↔ b = false := by
  cases b <;> decide

theorem le_ofBool_iff {v : Verdict} {b : Bool} : v ≤ ofBool b ↔ v = fails ∨ b = true := by
  cases v <;> cases b <;> decide

/-! ## The connectives -/

theorem and_eq_min (v w : Verdict) : v.and w = min v w := by
  cases v <;> cases w <;> rfl

theorem or_eq_max (v w : Verdict) : v.or w = max v w := by
  cases v <;> cases w <;> rfl

theorem not_le_iff {v w : Verdict} : v.not ≤ w ↔ w.not ≤ v := by
  cases v <;> cases w <;> decide

theorem le_not_iff {v w : Verdict} : v ≤ w.not ↔ w ≤ v.not := by
  cases v <;> cases w <;> decide

theorem not_le_not_iff {v w : Verdict} : v.not ≤ w.not ↔ w ≤ v := by
  rw [not_le_iff, not_not]

/-- The conjunction of several verdicts is their greatest lower bound. -/
theorem le_allOf_iff {v : Verdict} {verdicts : List Verdict} :
    v ≤ allOf verdicts ↔ ∀ w ∈ verdicts, v ≤ w := by
  induction verdicts with
  | nil => simp [allOf]
  | cons w verdicts ih => rw [allOf_cons, and_eq_min, le_min_iff, ih, List.forall_mem_cons]

/-- The disjunction of several verdicts is their least upper bound. -/
theorem anyOf_le_iff {v : Verdict} {verdicts : List Verdict} :
    anyOf verdicts ≤ v ↔ ∀ w ∈ verdicts, w ≤ v := by
  induction verdicts with
  | nil => simp [anyOf]
  | cons w verdicts ih => rw [anyOf_cons, or_eq_max, max_le_iff, ih, List.forall_mem_cons]

end Verdict

namespace Filter

variable {build : BuildNumber} {items : List Filter}

/-! ## Lists of items -/

@[simp] theorem evaluate_all_nil (build : BuildNumber) : evaluate build (all []) = .fails :=
  rfl

@[simp] theorem evaluate_any_nil (build : BuildNumber) : evaluate build (any []) = .fails :=
  rfl

@[simp] theorem evaluate_negation (build : BuildNumber) (item : Filter) :
    evaluate build (negation item) = (evaluate build item).not :=
  rfl

theorem le_evaluate_all_iff (hitems : items ≠ []) {v : Verdict} :
    v ≤ evaluate build (all items) ↔ ∀ item ∈ items, v ≤ evaluate build item := by
  rw [evaluate_all build hitems, Verdict.le_allOf_iff, List.forall_mem_map]

theorem evaluate_any_le_iff {v : Verdict} :
    evaluate build (any items) ≤ v ↔ ∀ item ∈ items, evaluate build item ≤ v := by
  rw [evaluate_any, Verdict.anyOf_le_iff, List.forall_mem_map]

theorem evaluate_all_eq_holds_iff (hitems : items ≠ []) :
    evaluate build (all items) = .holds ↔ ∀ item ∈ items, evaluate build item = .holds := by
  simp only [← Verdict.holds_le_iff, le_evaluate_all_iff hitems]

theorem evaluate_all_ne_fails_iff (hitems : items ≠ []) :
    evaluate build (all items) ≠ .fails ↔ ∀ item ∈ items, evaluate build item ≠ .fails := by
  simp only [← Verdict.unknown_le_iff, le_evaluate_all_iff hitems]

end Filter

end JdkCatalog
