import JdkCatalog.Proofs.Filter.Evaluation
import Mathlib.Data.List.Forall2

/-!
# What is not understood does not matter to a decided verdict

A filter may have parts that could not be understood, and such a part is
undecided.  A later reader may understand it, as any filter whatever.  The
result of this module, `evaluate_eq_of_completion`, is that this changes no
verdict that was decided before.

* `Verdict.RefinedBy` orders verdicts by how much they say: an undecided
  verdict says nothing, and a decided one leaves nothing open.  The
  connectives are monotone in this order, over lists as well.
* `Completion` relates a filter to what becomes of it when undecided parts, as
  many as one likes and at any depth, are replaced.
* `evaluate_refinedBy` carries the order up a tree, with one case for each kind
  of node.
-/

namespace JdkCatalog

namespace Verdict

/-! ## The order -/

/-- Nothing that is said by the first verdict is withdrawn by the second. -/
def RefinedBy (v w : Verdict) : Prop :=
  v = unknown ∨ w = v

theorem RefinedBy.refl (v : Verdict) : v.RefinedBy v :=
  .inr rfl

theorem RefinedBy.of_unknown (w : Verdict) : unknown.RefinedBy w :=
  .inl rfl

theorem RefinedBy.eq_of_ne_unknown {v w : Verdict} (h : v.RefinedBy w) (hv : v ≠ unknown) :
    w = v :=
  h.resolve_left hv

/-! ## The connectives are monotone -/

theorem RefinedBy.not {v w : Verdict} (h : v.RefinedBy w) : v.not.RefinedBy w.not := by
  rcases h with rfl | rfl
  · exact .of_unknown w.not
  · exact .refl w.not

/-- A conjunction with an undecided operand is undecided, or it has failed
because of the other one. -/
theorem RefinedBy.unknown_and (v w : Verdict) : (unknown.and w).RefinedBy (v.and w) := by
  cases w with
  | holds | unknown => exact .of_unknown _
  | fails => exact .inr (by rw [and_comm, fails_and, and_comm, fails_and])

theorem RefinedBy.and {v v' w w' : Verdict} (hv : v.RefinedBy v') (hw : w.RefinedBy w') :
    (v.and w).RefinedBy (v'.and w') := by
  rcases hv with rfl | rfl
  · rcases hw with rfl | rfl
    · exact .of_unknown _
    · exact .unknown_and v' w'
  · rcases hw with rfl | rfl
    · rw [and_comm v', and_comm v']
      exact .unknown_and w' v'
    · exact .refl _

theorem RefinedBy.or {v v' w w' : Verdict} (hv : v.RefinedBy v') (hw : w.RefinedBy w') :
    (v.or w).RefinedBy (v'.or w') := by
  have hnot := (hv.not.and hw.not).not
  simpa only [not_and, not_not] using hnot

theorem RefinedBy.allOf {vs ws : List Verdict} (h : List.Forall₂ RefinedBy vs ws) :
    (allOf vs).RefinedBy (allOf ws) := by
  induction h with
  | nil => exact .refl _
  | cons hv _ ih =>
    rw [allOf_cons, allOf_cons]
    exact hv.and ih

theorem RefinedBy.anyOf {vs ws : List Verdict} (h : List.Forall₂ RefinedBy vs ws) :
    (anyOf vs).RefinedBy (anyOf ws) := by
  induction h with
  | nil => exact .refl _
  | cons hv _ ih =>
    rw [anyOf_cons, anyOf_cons]
    exact hv.or ih

end Verdict

namespace Filter

/-! ## Completions -/

/-- What a filter may become when parts of it that are undecided on a build are
replaced. -/
inductive Completion (build : BuildNumber) : Filter → Filter → Prop where
  /-- A part may stay as it is. -/
  | same (part : Filter) : Completion build part part
  /-- A part that is undecided may become any filter. -/
  | replaced {part : Filter} (hpart : evaluate build part = .unknown) (new : Filter) :
      Completion build part new
  | all {items items' : List Filter} (hitems : List.Forall₂ (Completion build) items items') :
      Completion build (all items) (all items')
  | any {items items' : List Filter} (hitems : List.Forall₂ (Completion build) items items') :
      Completion build (any items) (any items')
  | negation {item item' : Filter} (hitem : Completion build item item') :
      Completion build (negation item) (negation item')

/-- A node of an unknown kind may become any filter. -/
theorem Completion.unrecognized (build : BuildNumber) (text : String) (new : Filter) :
    Completion build (unrecognized text) new :=
  .replaced rfl new

/-- A range with a malformed end may become any filter. -/
theorem Completion.malformed (build : BuildNumber) (text : String) (latest : Option Bound)
    (new : Filter) : Completion build (builds (some (.malformed text)) latest) new := by
  have hpart : evaluate build (builds (some (.malformed text)) latest) = .unknown :=
    evaluateRange_malformed_left build text latest
  exact .replaced hpart new

/-! ## Evaluation is monotone -/

/-- The items of two lists have verdicts that refine each other, place by
place. -/
def ItemsRefined (build : BuildNumber) (items items' : List Filter) : Prop :=
  List.Forall₂ Verdict.RefinedBy (items.map (evaluate build)) (items'.map (evaluate build))

theorem ItemsRefined.all {build : BuildNumber} {items items' : List Filter}
    (h : ItemsRefined build items items') :
    (evaluate build (all items)).RefinedBy (evaluate build (all items')) := by
  cases items with
  | nil =>
    -- No items on one side, no items on the other: both sides fail.
    have hitems' : items' = [] := by simpa [ItemsRefined] using h
    rw [hitems']
    exact .refl _
  | cons item rest =>
    have hitems' : items' ≠ [] := by
      intro hnil
      rw [hnil] at h
      simp [ItemsRefined] at h
    rw [evaluate_all build (List.cons_ne_nil item rest), evaluate_all build hitems']
    exact .allOf h

theorem ItemsRefined.any {build : BuildNumber} {items items' : List Filter}
    (h : ItemsRefined build items items') :
    (evaluate build (any items)).RefinedBy (evaluate build (any items')) := by
  rw [evaluate_any, evaluate_any]
  exact .anyOf h

/-- The verdict of a completion refines the verdict of the filter.  The
induction is on the way in which the completion was made. -/
theorem evaluate_refinedBy {build : BuildNumber} :
    ∀ {filter completed : Filter}, Completion build filter completed →
      (evaluate build filter).RefinedBy (evaluate build completed)
  | _, _, .same part => .refl (evaluate build part)
  | _, _, .replaced hpart new => hpart ▸ .of_unknown (evaluate build new)
  | _, _, .all hitems => (itemsRefined hitems).all
  | _, _, .any hitems => (itemsRefined hitems).any
  | _, _, .negation hitem => (evaluate_refinedBy hitem).not
where
  itemsRefined : ∀ {items items' : List Filter}, List.Forall₂ (Completion build) items items' →
      ItemsRefined build items items'
    | _, _, .nil => .nil
    | _, _, .cons hitem hitems => .cons (evaluate_refinedBy hitem) (itemsRefined hitems)

/-- A verdict that was decided is the verdict of every completion. -/
theorem evaluate_eq_of_completion {build : BuildNumber} {filter completed : Filter}
    (hcompletion : Completion build filter completed)
    (hdecided : evaluate build filter ≠ .unknown) :
    evaluate build completed = evaluate build filter :=
  (evaluate_refinedBy hcompletion).eq_of_ne_unknown hdecided

/-- Two parts were not understood, one of them below a conjunction that fails
and a negation.  The filter holds, and so it does with both of them replaced. -/
theorem evaluate_of_two_parts_replaced :
    Completion ⟨none, [203], by decide⟩
        (any [unrecognized "1",
          negation (all [builds (some (.malformed "x")) none, literal false])])
        (any [literal false, negation (all [literal true, literal false])]) ∧
      evaluate ⟨none, [203], by decide⟩
        (any [unrecognized "1",
          negation (all [builds (some (.malformed "x")) none, literal false])]) ≠ .unknown ∧
      evaluate ⟨none, [203], by decide⟩
        (any [literal false, negation (all [literal true, literal false])]) = .holds := by
  have hinner : Completion ⟨none, [203], by decide⟩
      (all [builds (some (.malformed "x")) none, literal false])
      (all [literal true, literal false]) :=
    .all (.cons (.malformed _ "x" none (literal true)) (.cons (.same (literal false)) .nil))
  have hcompletion := Completion.any
    (.cons (.unrecognized _ "1" (literal false)) (.cons hinner.negation .nil))
  refine ⟨hcompletion, by decide, ?_⟩
  exact (evaluate_eq_of_completion hcompletion (by decide)).trans (by decide)

end Filter

end JdkCatalog
