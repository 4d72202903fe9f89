import JdkCatalog.Proofs.Filter.Algebra
import JdkCatalog.Proofs.Filter.Congruence
import Mathlib.Data.List.Forall2

/-!
# Filters that are written in the same way

The words between the items of a list tell a conjunction from a disjunction, so of a
list of fewer than two items it cannot be told which it is.  `Alike` allows for this
anywhere in two trees and for nothing else.  Trees that are alike have the same text
(`Alike.text_eq`) and the same verdicts (`Alike.evaluate_eq`).
-/

namespace JdkCatalog.Filter

/-- Two trees are the same node by node, except that a conjunction and a disjunction of
fewer than two items may stand for each other. -/
inductive Alike : Filter → Filter → Prop where
  | literal (value : Bool) : Alike (literal value) (literal value)
  | all {items items' : List Filter} (hitems : List.Forall₂ Alike items items') :
      Alike (all items) (all items')
  | any {items items' : List Filter} (hitems : List.Forall₂ Alike items items') :
      Alike (any items) (any items')
  | allAny {items items' : List Filter} (hitems : List.Forall₂ Alike items items')
      (hlength : items.length < 2) : Alike (all items) (any items')
  | anyAll {items items' : List Filter} (hitems : List.Forall₂ Alike items items')
      (hlength : items.length < 2) : Alike (any items) (all items')
  | negation {item item' : Filter} (hitem : Alike item item') :
      Alike (negation item) (negation item')
  | builds (earliest latest : Option Bound) :
      Alike (builds earliest latest) (builds earliest latest)
  | unrecognized (text : String) : Alike (unrecognized text) (unrecognized text)

/-- A conjunction of fewer than two items has the verdict of the disjunction. -/
theorem evaluate_all_eq_any (build : BuildNumber) {items : List Filter}
    (hlength : items.length < 2) : evaluate build (all items) = evaluate build (any items) := by
  match items, hlength with
  | [], _ => rfl
  | [item], _ => rw [evaluate_all_singleton, evaluate_any_singleton]

/-- Trees that are alike have the same verdict on every build. -/
theorem Alike.evaluate_eq (build : BuildNumber) : ∀ {filter filter' : Filter},
    Alike filter filter' → evaluate build filter = evaluate build filter'
  | _, _, .literal _ => rfl
  | _, _, .all hitems => evaluate_all_congr (map_evaluate_eq hitems)
  | _, _, .any hitems => evaluate_any_congr (map_evaluate_eq hitems)
  | _, _, .allAny hitems hlength =>
    (evaluate_all_eq_any build hlength).trans (evaluate_any_congr (map_evaluate_eq hitems))
  | _, _, .anyAll hitems hlength =>
    (evaluate_all_eq_any build hlength).symm.trans (evaluate_all_congr (map_evaluate_eq hitems))
  | _, _, .negation hitem => congrArg Verdict.not (evaluate_eq build hitem)
  | _, _, .builds _ _ => rfl
  | _, _, .unrecognized _ => rfl
where
  map_evaluate_eq : ∀ {items items' : List Filter}, List.Forall₂ Alike items items' →
      items.map (evaluate build) = items'.map (evaluate build)
    | _, _, .nil => rfl
    | _, _, .cons hitem hitems =>
      congrArg₂ List.cons (Alike.evaluate_eq build hitem) (map_evaluate_eq hitems)

/-! ## Texts of nodes -/

/-- The text of a list of items. -/
def listText (sep : String) (items : List Filter) : List Char :=
  '(' :: (sep.toList.intercalate (items.map fun item => item.text.toList) ++ [')'])

theorem toList_text_all (items : List Filter) :
    (all items).text.toList = listText " AND " items := by
  rw [text, text.itemTexts_eq_map, listText]
  simp [String.toList_intercalate, Function.comp_def]

theorem toList_text_any (items : List Filter) :
    (any items).text.toList = listText " OR " items := by
  rw [text, text.itemTexts_eq_map, listText]
  simp [String.toList_intercalate, Function.comp_def]

theorem toList_text_negation (item : Filter) :
    (negation item).text.toList = "(NOT ".toList ++ (item.text.toList ++ [')']) := by
  rw [text, String.toList_append, String.toList_append, List.append_assoc]
  rfl

theorem toList_text_builds (earliest latest : Option Bound) :
    (builds earliest latest).text.toList = "build in [".toList ++
      ((sideText earliest).toList ++ (", ".toList ++ ((sideText latest).toList ++ [']']))) := by
  rw [text]
  simp only [String.toList_append, List.append_assoc]
  rfl

theorem toList_text_unrecognized (s : String) :
    (unrecognized s).text.toList = "<unrecognized ".toList ++ (s.toList ++ ['>']) := by
  rw [text, String.toList_append, String.toList_append, List.append_assoc]
  rfl

theorem listText_congr {sep sep' : String} {items items' : List Filter}
    (hitems : items.map text = items'.map text) (hsep : 2 ≤ items.length → sep = sep') :
    listText sep items = listText sep' items' := by
  have hchars (items : List Filter) :
      (items.map fun item => item.text.toList) = (items.map text).map String.toList := by
    rw [List.map_map]
    rfl
  rw [listText, listText, hchars, hchars, ← hitems]
  match items, hsep with
  | [], _ => rfl
  | [item], _ => rfl
  | item :: next :: items, hsep => rw [hsep (by simp)]

/-- Trees that are alike have the same text. -/
theorem Alike.text_eq : ∀ {filter filter' : Filter},
    Alike filter filter' → filter.text = filter'.text
  | _, _, .literal _ => rfl
  | _, _, .all hitems => by
    rw [← String.toList_inj, toList_text_all, toList_text_all]
    exact listText_congr (map_text_eq hitems) fun _ => rfl
  | _, _, .any hitems => by
    rw [← String.toList_inj, toList_text_any, toList_text_any]
    exact listText_congr (map_text_eq hitems) fun _ => rfl
  | _, _, .allAny hitems hlength => by
    rw [← String.toList_inj, toList_text_all, toList_text_any]
    exact listText_congr (map_text_eq hitems) fun hmany => absurd hmany (Nat.not_le.mpr hlength)
  | _, _, .anyAll hitems hlength => by
    rw [← String.toList_inj, toList_text_any, toList_text_all]
    exact listText_congr (map_text_eq hitems) fun hmany => absurd hmany (Nat.not_le.mpr hlength)
  | _, _, .negation hitem => by rw [text, text, text_eq hitem]
  | _, _, .builds _ _ => rfl
  | _, _, .unrecognized _ => rfl
where
  map_text_eq : ∀ {items items' : List Filter}, List.Forall₂ Alike items items' →
      items.map text = items'.map text
    | _, _, .nil => rfl
    | _, _, .cons hitem hitems => congrArg₂ List.cons (Alike.text_eq hitem) (map_text_eq hitems)

end JdkCatalog.Filter
