import JdkCatalog.Proofs.Filter.Evaluation
import Mathlib.Data.List.Basic

/-!
# Parts of filters

A filter is a tree, and `PartAt` says what stands in it, below how many
negations.  A condition on the parts, `Everywhere`, comes down to the nodes of
the tree one by one (`everywhere_of_leaf` and the lemmas after it), and
`partInduction` is the induction that goes with this.

`Obscure` are the parts that were not understood.  There is nothing more to be
said of them than that they are undecided on every build.
-/

namespace JdkCatalog.Filter

/-! ## What stands in a filter -/

/-- The part stands in the filter, below so many negations. -/
inductive PartAt : Nat → Filter → Filter → Prop where
  | self (filter : Filter) : PartAt 0 filter filter
  | all {depth : Nat} {part item : Filter} {items : List Filter} (hmem : item ∈ items)
      (hpart : PartAt depth part item) : PartAt depth part (all items)
  | any {depth : Nat} {part item : Filter} {items : List Filter} (hmem : item ∈ items)
      (hpart : PartAt depth part item) : PartAt depth part (any items)
  | negation {depth : Nat} {part item : Filter} (hpart : PartAt depth part item) :
      PartAt (depth + 1) part (negation item)

/-- What is true of a filter if it is true of every filter whose items it is
true of, is true of every filter. -/
theorem partInduction {motive : Filter → Prop}
    (literal : ∀ value, motive (literal value))
    (all : ∀ items, (∀ item ∈ items, motive item) → motive (all items))
    (any : ∀ items, (∀ item ∈ items, motive item) → motive (any items))
    (negation : ∀ item, motive item → motive (negation item))
    (builds : ∀ earliest latest, motive (builds earliest latest))
    (unrecognized : ∀ text, motive (unrecognized text)) : ∀ filter, motive filter
  | .literal value => literal value
  | .all items => all items (everyItem items)
  | .any items => any items (everyItem items)
  | .negation item =>
    negation item (partInduction literal all any negation builds unrecognized item)
  | .builds earliest latest => builds earliest latest
  | .unrecognized text => unrecognized text
where
  everyItem : ∀ items : List Filter, ∀ item ∈ items, motive item
    | [] => List.forall_mem_nil motive
    | item :: items =>
      List.forall_mem_cons.mpr
        ⟨partInduction literal all any negation builds unrecognized item, everyItem items⟩

/-! ## Conditions on the parts -/

/-- Every part meets the condition, which may depend on the number of negations
that the part stands below. -/
def Everywhere (condition : Nat → Filter → Prop) (filter : Filter) : Prop :=
  ∀ depth part, PartAt depth part filter → condition depth part

variable {condition : Nat → Filter → Prop}

theorem Everywhere.root {filter : Filter} (h : Everywhere condition filter) : condition 0 filter :=
  h 0 filter (.self filter)

/-- A node without items. -/
def IsLeaf : Filter → Prop
  | literal _ | builds _ _ | unrecognized _ => True
  | _ => False

theorem everywhere_of_leaf {filter : Filter} (hleaf : filter.IsLeaf)
    (hself : condition 0 filter) : Everywhere condition filter := by
  intro depth part hpart
  cases hpart with
  | self => exact hself
  | all | any | negation => exact hleaf.elim

theorem everywhere_all_iff {items : List Filter} :
    Everywhere condition (all items) ↔
      condition 0 (all items) ∧ ∀ item ∈ items, Everywhere condition item := by
  constructor
  · intro h
    exact ⟨h.root, fun item hmem depth part hpart => h depth part (.all hmem hpart)⟩
  · rintro ⟨hself, hitems⟩ depth part hpart
    cases hpart with
    | self => exact hself
    | all hmem hpart => exact hitems _ hmem depth part hpart

theorem everywhere_any_iff {items : List Filter} :
    Everywhere condition (any items) ↔
      condition 0 (any items) ∧ ∀ item ∈ items, Everywhere condition item := by
  constructor
  · intro h
    exact ⟨h.root, fun item hmem depth part hpart => h depth part (.any hmem hpart)⟩
  · rintro ⟨hself, hitems⟩ depth part hpart
    cases hpart with
    | self => exact hself
    | any hmem hpart => exact hitems _ hmem depth part hpart

/-- Below a negation every part stands one deeper. -/
theorem everywhere_negation_iff {item : Filter} :
    Everywhere condition (negation item) ↔
      condition 0 (negation item) ∧ Everywhere (fun depth => condition (depth + 1)) item := by
  constructor
  · intro h
    exact ⟨h.root, fun depth part hpart => h (depth + 1) part (.negation hpart)⟩
  · rintro ⟨hself, hitem⟩ _ part hpart
    cases hpart with
    | self => exact hself
    | negation hpart => exact hitem _ part hpart

/-! ## What was not understood -/

/-- A node that was not understood: it is of an unknown kind, or a range one of
whose ends is malformed. -/
inductive Obscure : Filter → Prop where
  | unrecognized (text : String) : Obscure (unrecognized text)
  | earliest (text : String) (latest : Option Bound) :
      Obscure (builds (some (.malformed text)) latest)
  | latest (earliest : Option Bound) (text : String) :
      Obscure (builds earliest (some (.malformed text)))

theorem Obscure.evaluate_eq {filter : Filter} (h : filter.Obscure) (build : BuildNumber) :
    evaluate build filter = .unknown := by
  cases h with
  | unrecognized text => rfl
  | earliest text latest => exact evaluateRange_malformed_left build text latest
  | latest earliest text => exact evaluateRange_malformed_right build earliest text

end JdkCatalog.Filter
