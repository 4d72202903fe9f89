import JdkCatalog.Proofs.BuildNumber.Order
import JdkCatalog.Proofs.Filter.Evaluation
import Mathlib.Logic.Basic

/-!
# Equal filters have equal verdicts

Filters are equal if their trees are, where build numbers in them are equal
whatever their codes.  So equal filters may differ, and this module says that
their verdicts do not, on builds that are equal as well.

* `evaluateRange_congr` is the case of a range, where the codes are.
* `evaluate_congr` carries it up the two trees, with one case for each kind of
  node.
-/

namespace JdkCatalog

theorem BuildNumber.compare_congr {a a' b b' : BuildNumber} (ha : (a == a') = true)
    (hb : (b == b') = true) : compare a b = compare a' b' := by
  rw [compare_def, compare_def, beq_iff.mp ha, beq_iff.mp hb]

namespace Filter

/-! ## Equality -/

instance : ReflBEq Bound where
  rfl {bound} := by
    cases bound with
    | build b => exact BEq.rfl (a := b)
    | malformed s => exact beq_self_eq_true s

theorem agrees_self : ∀ filter : Filter, filter.agrees filter = true
  | literal _ => beq_self_eq_true _
  | all items => agreeAll_self items
  | any items => agreeAll_self items
  | negation item => agrees_self item
  | builds _ _ => Bool.and_eq_true_iff.mpr ⟨BEq.rfl, BEq.rfl⟩
  | unrecognized s => beq_self_eq_true s
where
  agreeAll_self : ∀ items : List Filter, agrees.agreeAll items items = true
    | [] => rfl
    | item :: items => Bool.and_eq_true_iff.mpr ⟨agrees_self item, agreeAll_self items⟩

instance : ReflBEq Filter where
  rfl {filter} := filter.agrees_self

/-! ## Ranges -/

/-- Equal bounds are equal build numbers, or the same malformed text. -/
theorem bound_beq_cases {e e' : Option Bound} (h : (e == e') = true) :
    (∃ s, e = some (.malformed s) ∧ e' = some (.malformed s)) ∨
      ∃ b? b?' : Option BuildNumber, e = b?.map .build ∧ e' = b?'.map .build ∧
        (b? == b?') = true := by
  rcases e with _ | (b | s) <;> rcases e' with _ | (b' | s')
  · exact .inr ⟨none, none, rfl, rfl, rfl⟩
  · cases h
  · cases h
  · cases h
  · exact .inr ⟨some b, some b', rfl, rfl, h⟩
  · cases h
  · cases h
  · cases h
  · obtain rfl : s = s' := beq_iff_eq.mp h
    exact .inl ⟨s, rfl, rfl⟩

theorem all_isLE_left_congr {build build' : BuildNumber} {e e' : Option BuildNumber}
    (hbuild : (build == build') = true) (he : (e == e') = true) :
    e.all (fun b => (compare b build).isLE) = e'.all (fun b => (compare b build').isLE) := by
  cases e <;> cases e'
  · rfl
  · cases he
  · cases he
  · exact congrArg Ordering.isLE (BuildNumber.compare_congr he hbuild)

theorem all_isLE_right_congr {build build' : BuildNumber} {l l' : Option BuildNumber}
    (hbuild : (build == build') = true) (hl : (l == l') = true) :
    l.all (fun b => (compare build b).isLE) = l'.all (fun b => (compare build' b).isLE) := by
  cases l <;> cases l'
  · rfl
  · cases hl
  · cases hl
  · exact congrArg Ordering.isLE (BuildNumber.compare_congr hbuild hl)

theorem evaluateRange_congr {build build' : BuildNumber} {e e' l l' : Option Bound}
    (hbuild : (build == build') = true) (he : (e == e') = true) (hl : (l == l') = true) :
    evaluateRange build e l = evaluateRange build' e' l' := by
  obtain ⟨s, rfl, rfl⟩ | ⟨b?, b?', rfl, rfl, hb⟩ := bound_beq_cases he
  · rfl
  obtain ⟨s, rfl, rfl⟩ | ⟨c?, c?', rfl, rfl, hc⟩ := bound_beq_cases hl
  · rw [evaluateRange_malformed_right, evaluateRange_malformed_right]
  · rw [evaluateRange_build, evaluateRange_build, all_isLE_left_congr hbuild hb,
      all_isLE_right_congr hbuild hc]

/-! ## Trees -/

theorem evaluate_all_congr {build build' : BuildNumber} {items items' : List Filter}
    (h : items.map (evaluate build) = items'.map (evaluate build')) :
    evaluate build (all items) = evaluate build' (all items') := by
  cases items with
  | nil =>
    rw [List.map_nil, eq_comm, List.map_eq_nil_iff] at h
    rw [h]
    rfl
  | cons item items =>
    have hne : items' ≠ [] := by
      rintro rfl
      cases h
    rw [evaluate_all build (List.cons_ne_nil item items), evaluate_all build' hne, h]

theorem evaluate_any_congr {build build' : BuildNumber} {items items' : List Filter}
    (h : items.map (evaluate build) = items'.map (evaluate build')) :
    evaluate build (any items) = evaluate build' (any items') := by
  rw [evaluate_any, evaluate_any, h]

/-- Equal filters have the same verdict on equal builds. -/
theorem evaluate_congr {build build' : BuildNumber} (hbuild : (build == build') = true) :
    ∀ {filter filter' : Filter}, filter.agrees filter' = true →
      evaluate build filter = evaluate build' filter'
  | literal _, literal _, h => congrArg Verdict.ofBool (beq_iff_eq.mp h)
  | all _, all _, h => evaluate_all_congr (map_evaluate_congr h)
  | any _, any _, h => evaluate_any_congr (map_evaluate_congr h)
  | negation _, negation _, h => congrArg Verdict.not (evaluate_congr hbuild h)
  | builds _ _, builds _ _, h =>
    have h := Bool.and_eq_true_iff.mp h
    evaluateRange_congr hbuild h.1 h.2
  | unrecognized _, unrecognized _, _ => rfl
where
  map_evaluate_congr : ∀ {items items' : List Filter}, agrees.agreeAll items items' = true →
      items.map (evaluate build) = items'.map (evaluate build')
    | [], [], _ => rfl
    | _ :: _, _ :: _, h =>
      have h := Bool.and_eq_true_iff.mp h
      congrArg₂ List.cons (evaluate_congr hbuild h.1) (map_evaluate_congr h.2)

end Filter

end JdkCatalog
