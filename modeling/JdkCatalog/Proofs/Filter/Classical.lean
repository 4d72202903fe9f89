import JdkCatalog.Proofs.Filter.Algebra
import JdkCatalog.Proofs.Filter.Interval

/-!
# Filters that were understood

A filter all of which was understood is a condition of classical logic: `truth`
is its truth value on a build, without a third one and without an order in
which items are looked at.

* `evaluate_of_understood`: the verdict on such a filter is its truth value.
* `exists_obscure_of_evaluate_eq_unknown`: only a filter with a part that was
  not understood can be undecided.
* `evaluate_all_eq_unknown_iff` and `evaluate_any_eq_unknown_iff` follow the
  missing decision one step down, to an item.
-/

namespace JdkCatalog

namespace Verdict

theorem allOf_map_ofBool {α : Type} (p : α → Bool) (xs : List α) :
    allOf (xs.map fun x => ofBool (p x)) = ofBool (xs.all p) := by
  induction xs with
  | nil => rfl
  | cons x xs ih =>
    rw [List.map_cons, allOf_cons, ih, List.all_cons]
    cases p x <;> cases xs.all p <;> rfl

theorem anyOf_map_ofBool {α : Type} (p : α → Bool) (xs : List α) :
    anyOf (xs.map fun x => ofBool (p x)) = ofBool (xs.any p) := by
  induction xs with
  | nil => rfl
  | cons x xs ih =>
    rw [List.map_cons, anyOf_cons, ih, List.any_cons]
    cases p x <;> cases xs.any p <;> rfl

theorem not_eq_unknown_iff {v : Verdict} : v.not = unknown ↔ v = unknown := by
  cases v <;> decide

theorem not_eq_fails_iff {v : Verdict} : v.not = fails ↔ v = holds := by
  cases v <;> decide

theorem not_ofBool (b : Bool) : (ofBool b).not = ofBool (!b) := by
  cases b <;> rfl

end Verdict

/-- The build number of an end that was understood. -/
def Bound.build? : Bound → Option BuildNumber
  | build b => some b
  | malformed _ => none

namespace Filter

variable {build : BuildNumber} {items : List Filter}

/-! ## Classical logic -/

/-- The truth value on a build of a filter that was understood.  There has to be
an item for a conjunction to be true, and a range is true of the builds between
its ends. -/
def truth (build : BuildNumber) : Filter → Bool
  | literal value => value
  | all items => !items.isEmpty && allTrue items
  | any items => anyTrue items
  | negation item => !truth build item
  | builds earliest latest =>
    decide (Within build (earliest.bind Bound.build?) (latest.bind Bound.build?))
  | unrecognized _ => false
where
  /-- All items are true. -/
  allTrue : List Filter → Bool
    | [] => true
    | item :: items => truth build item && allTrue items
  /-- Some item is true. -/
  anyTrue : List Filter → Bool
    | [] => false
    | item :: items => truth build item || anyTrue items

theorem truth_all (build : BuildNumber) (items : List Filter) :
    truth build (all items) = (!items.isEmpty && items.all (truth build)) := by
  have hitems : truth.allTrue build items = items.all (truth build) := by
    induction items with
    | nil => rfl
    | cons item items ih => rw [truth.allTrue, ih, List.all_cons]
  rw [truth, hitems]

theorem truth_any (build : BuildNumber) (items : List Filter) :
    truth build (any items) = items.any (truth build) := by
  rw [truth]
  induction items with
  | nil => rfl
  | cons item items ih => rw [truth.anyTrue, ih, List.any_cons]

theorem truth_between (build : BuildNumber) (earliest latest : Option BuildNumber) :
    truth build (between earliest latest) = decide (Within build earliest latest) := by
  have hbuild (side : Option BuildNumber) :
      (side.map Bound.build).bind Bound.build? = side := by
    cases side <;> rfl
  rw [between, truth, hbuild, hbuild]

/-- Every part of the filter was understood. -/
def Understood (filter : Filter) : Prop :=
  Everywhere (fun _ part => ¬ part.Obscure) filter

/-- The verdict on a filter that was understood is its truth value. -/
theorem evaluate_of_understood {filter : Filter} (h : filter.Understood) (build : BuildNumber) :
    evaluate build filter = Verdict.ofBool (truth build filter) := by
  induction filter using partInduction with
  | literal value => rfl
  | all items ih =>
    have hitems := (everywhere_all_iff.mp h).2
    cases items with
    | nil => rfl
    | cons item rest =>
      rw [evaluate_all build (List.cons_ne_nil item rest), truth_all,
        List.map_congr_left fun item hmem => ih item hmem (hitems item hmem),
        Verdict.allOf_map_ofBool]
      rfl
  | any items ih =>
    have hitems := (everywhere_any_iff.mp h).2
    rw [evaluate_any, truth_any,
      List.map_congr_left fun item hmem => ih item hmem (hitems item hmem),
      Verdict.anyOf_map_ofBool]
  | negation item ih =>
    rw [evaluate_negation, ih (everywhere_negation_iff.mp h).2, Verdict.not_ofBool, truth]
  | builds earliest latest =>
    obtain hobscure | ⟨earliest, latest, hends⟩ := builds_cases earliest latest
    · exact absurd hobscure h.root
    · rw [hends, evaluate_between, truth_between]
  | unrecognized text => exact absurd (.unrecognized text) h.root

/-! ## Undecided filters -/

/-- A filter that is undecided has a part that was not understood. -/
theorem exists_obscure_of_evaluate_eq_unknown {filter : Filter}
    (hunknown : evaluate build filter = .unknown) :
    ∃ depth part, PartAt depth part filter ∧ part.Obscure := by
  by_contra hnone
  have hunderstood : filter.Understood := fun depth part hpart hobscure =>
    hnone ⟨depth, part, hpart, hobscure⟩
  rw [evaluate_of_understood hunderstood] at hunknown
  exact Verdict.ofBool_ne_unknown _ hunknown

/-- A filter that is decided or its negation holds, and they do not hold
together. -/
theorem evaluate_excluded_middle {filter : Filter}
    (hdecided : evaluate build filter ≠ .unknown) :
    evaluate build (any [filter, negation filter]) = .holds ∧
      evaluate build (all [filter, negation filter]) = .fails := by
  rw [evaluate_any, evaluate_all build (List.cons_ne_nil _ _)]
  simp only [List.map_cons, List.map_nil, evaluate_negation]
  cases hverdict : evaluate build filter with
  | holds | fails => exact ⟨rfl, rfl⟩
  | unknown => exact absurd hverdict hdecided

/-- A conjunction is undecided if an item is and none decides it. -/
theorem evaluate_all_eq_unknown_iff :
    evaluate build (all items) = .unknown ↔
      (∃ item ∈ items, evaluate build item = .unknown) ∧
        ∀ item ∈ items, evaluate build item ≠ .fails := by
  by_cases hitems : items = []
  · simp [hitems]
  rw [Verdict.eq_unknown_iff, evaluate_all_ne_fails_iff hitems, Ne,
    evaluate_all_eq_holds_iff hitems]
  constructor
  · rintro ⟨hfails, hholds⟩
    obtain ⟨item, hmem, hitem⟩ : ∃ item ∈ items, evaluate build item ≠ .holds := by
      simpa using hholds
    exact ⟨⟨item, hmem, Verdict.eq_unknown_iff.mpr ⟨hfails item hmem, hitem⟩⟩, hfails⟩
  · rintro ⟨⟨item, hmem, hunknown⟩, hfails⟩
    refine ⟨hfails, fun hholds => ?_⟩
    exact (Verdict.eq_unknown_iff.mp hunknown).2 (hholds item hmem)

/-- A disjunction is undecided if an item is and none decides it. -/
theorem evaluate_any_eq_unknown_iff :
    evaluate build (any items) = .unknown ↔
      (∃ item ∈ items, evaluate build item = .unknown) ∧
        ∀ item ∈ items, evaluate build item ≠ .holds := by
  by_cases hitems : items = []
  · simp [hitems]
  calc evaluate build (any items) = .unknown
      ↔ evaluate build (negation (any items)) = .unknown := by
        rw [evaluate_negation, Verdict.not_eq_unknown_iff]
    _ ↔ evaluate build (all (items.map negation)) = .unknown := by
        rw [evaluate_negation_any hitems]
    _ ↔ _ := by
        simp [evaluate_all_eq_unknown_iff, Verdict.not_eq_unknown_iff, Verdict.not_eq_fails_iff]

/-! ## The result -/

/-- Only a filter with a part that was not understood can be undecided.  All
others are decided on every build by their truth value, and of them and their
negation one holds and one fails.  A list is undecided if and only if an item
is and no other item decides it. -/
theorem evaluate_classical :
    (∀ (build : BuildNumber) (filter : Filter), evaluate build filter = .unknown →
      ∃ depth part, PartAt depth part filter ∧ part.Obscure) ∧
    (∀ filter : Filter, (∀ depth part, PartAt depth part filter → ¬ part.Obscure) →
      ∀ build, evaluate build filter = Verdict.ofBool (truth build filter) ∧
        evaluate build (any [filter, negation filter]) = .holds ∧
        evaluate build (all [filter, negation filter]) = .fails) ∧
    (∀ (build : BuildNumber) (items : List Filter),
      (evaluate build (all items) = .unknown ↔
          (∃ item ∈ items, evaluate build item = .unknown) ∧
            ∀ item ∈ items, evaluate build item ≠ .fails) ∧
        (evaluate build (any items) = .unknown ↔
          (∃ item ∈ items, evaluate build item = .unknown) ∧
            ∀ item ∈ items, evaluate build item ≠ .holds)) := by
  refine ⟨fun _ _ => exists_obscure_of_evaluate_eq_unknown, fun filter hunderstood build => ?_,
    fun _ _ => ⟨evaluate_all_eq_unknown_iff, evaluate_any_eq_unknown_iff⟩⟩
  have hverdict := evaluate_of_understood hunderstood build
  have hdecided : evaluate build filter ≠ .unknown := by
    rw [hverdict]
    exact Verdict.ofBool_ne_unknown _
  exact ⟨hverdict, evaluate_excluded_middle hdecided⟩

/-- A range and its negation, next to a conjunction without items, were
understood; a range with a malformed end was not. -/
theorem evaluate_range_or_empty :
    let build : BuildNumber := ⟨none, [203], by decide⟩
    let understood := any [all [], negation (between (some build) none)]
    let obscure := any [literal false, builds none (some (.malformed "20x"))]
    (∀ depth part, PartAt depth part understood → ¬ part.Obscure) ∧
      evaluate build understood = Verdict.ofBool (truth build understood) ∧
      evaluate build obscure = .unknown ∧
      ∃ depth part, PartAt depth part obscure ∧ part.Obscure := by
  intro build understood obscure
  have hunderstood : understood.Understood := by
    have hrange : Everywhere (fun _ part => ¬ part.Obscure) (between (some build) none) :=
      everywhere_of_leaf trivial nofun
    have hempty : Everywhere (fun _ part => ¬ part.Obscure) (all []) :=
      everywhere_all_iff.mpr ⟨nofun, List.forall_mem_nil _⟩
    have hnegation : Everywhere (fun _ part => ¬ part.Obscure)
        (negation (between (some build) none)) :=
      everywhere_negation_iff.mpr ⟨nofun, hrange⟩
    exact everywhere_any_iff.mpr ⟨nofun, List.forall_mem_cons.mpr
      ⟨hempty, List.forall_mem_singleton.mpr hnegation⟩⟩
  have hunknown : evaluate build obscure = .unknown := by decide
  obtain ⟨hexists, hclassical, -⟩ := evaluate_classical
  exact ⟨hunderstood, (hclassical understood hunderstood build).1, hunknown,
    hexists build obscure hunknown⟩

end Filter

end JdkCatalog
