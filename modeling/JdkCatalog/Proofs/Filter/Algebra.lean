import JdkCatalog.Proofs.Filter.Order

/-!
# The algebra of filters

Which filters have the same verdict on every build.  Both connectives are
bounds of their items, so each law is an equality of bounds: two verdicts are
equal if the same verdicts are below them, or above.

* `evaluate_all_of_same_items` and `evaluate_any_of_same_items`: it matters
  which items there are, and neither their order nor how often they occur.
* `evaluate_negation_all` and `evaluate_negation_any`: negation goes through a
  list that is not empty.
* `evaluate_any_nested` and `evaluate_all_nested`: a list in a list of its own
  kind may be spliced in.  A conjunction without items may not, since it is no
  neutral item but a failing one.
-/

namespace JdkCatalog.Filter

variable {build : BuildNumber} {items items' : List Filter}

/-! ## The same items -/

theorem evaluate_all_of_same_items (hsame : ∀ item, item ∈ items ↔ item ∈ items') :
    evaluate build (all items) = evaluate build (all items') := by
  by_cases hitems : items = []
  · subst hitems
    have hitems' : items' = [] := by
      simpa [List.eq_nil_iff_forall_not_mem] using hsame
    rw [hitems']
  have hitems' : items' ≠ [] := by
    rintro rfl
    exact hitems (List.eq_nil_iff_forall_not_mem.mpr (by simpa using hsame))
  refine eq_of_forall_le_iff fun v => ?_
  rw [le_evaluate_all_iff hitems, le_evaluate_all_iff hitems']
  exact forall_congr' fun item => imp_congr_left (hsame item)

theorem evaluate_any_of_same_items (hsame : ∀ item, item ∈ items ↔ item ∈ items') :
    evaluate build (any items) = evaluate build (any items') := by
  refine eq_of_forall_ge_iff fun v => ?_
  rw [evaluate_any_le_iff, evaluate_any_le_iff]
  exact forall_congr' fun item => imp_congr_left (hsame item)

/-- An item that occurs once more, at any place, is no other item. -/
theorem mem_insert_repeated {front back : List Filter} {item : Filter}
    (hmem : item ∈ front ++ back) (other : Filter) :
    other ∈ front ++ item :: back ↔ other ∈ front ++ back := by
  simp only [List.mem_append, List.mem_cons] at hmem ⊢
  constructor
  · rintro (hfront | rfl | hback)
    · exact .inl hfront
    · exact hmem
    · exact .inr hback
  · rintro (hfront | hback)
    · exact .inl hfront
    · exact .inr (.inr hback)

/-! ## Negation -/

theorem evaluate_negation_all (hitems : items ≠ []) :
    evaluate build (negation (all items)) = evaluate build (any (items.map negation)) := by
  refine eq_of_forall_ge_iff fun v => ?_
  calc evaluate build (negation (all items)) ≤ v
      ↔ v.not ≤ evaluate build (all items) := Verdict.not_le_iff
    _ ↔ ∀ item ∈ items, v.not ≤ evaluate build item := le_evaluate_all_iff hitems
    _ ↔ ∀ item ∈ items, evaluate build (negation item) ≤ v :=
        forall₂_congr fun _ _ => Verdict.not_le_iff.symm
    _ ↔ evaluate build (any (items.map negation)) ≤ v := by
        rw [evaluate_any_le_iff, List.forall_mem_map]

theorem evaluate_negation_any (hitems : items ≠ []) :
    evaluate build (negation (any items)) = evaluate build (all (items.map negation)) := by
  have hmap : items.map negation ≠ [] := by simpa using hitems
  refine eq_of_forall_le_iff fun v => ?_
  calc v ≤ evaluate build (negation (any items))
      ↔ evaluate build (any items) ≤ v.not := Verdict.le_not_iff
    _ ↔ ∀ item ∈ items, evaluate build item ≤ v.not := evaluate_any_le_iff
    _ ↔ ∀ item ∈ items, v ≤ evaluate build (negation item) :=
        forall₂_congr fun _ _ => Verdict.le_not_iff.symm
    _ ↔ v ≤ evaluate build (all (items.map negation)) := by
        rw [le_evaluate_all_iff hmap, List.forall_mem_map]

theorem evaluate_negation_negation (build : BuildNumber) (item : Filter) :
    evaluate build (negation (negation item)) = evaluate build item := by
  rw [evaluate_negation, evaluate_negation, Verdict.not_not]

/-! ## Lists in lists -/

theorem evaluate_all_singleton (build : BuildNumber) (item : Filter) :
    evaluate build (all [item]) = evaluate build item := by
  refine eq_of_forall_le_iff fun v => ?_
  rw [le_evaluate_all_iff (List.cons_ne_nil item []), List.forall_mem_singleton]

theorem evaluate_any_singleton (build : BuildNumber) (item : Filter) :
    evaluate build (any [item]) = evaluate build item := by
  refine eq_of_forall_ge_iff fun v => ?_
  rw [evaluate_any_le_iff, List.forall_mem_singleton]

theorem evaluate_any_nested (build : BuildNumber) (front inner back : List Filter) :
    evaluate build (any (front ++ [any inner] ++ back)) =
      evaluate build (any (front ++ inner ++ back)) := by
  refine eq_of_forall_ge_iff fun v => ?_
  simp only [evaluate_any_le_iff, List.forall_mem_append, List.forall_mem_singleton]

theorem evaluate_all_nested (build : BuildNumber) (front : List Filter) {inner : List Filter}
    (hinner : inner ≠ []) (back : List Filter) :
    evaluate build (all (front ++ [all inner] ++ back)) =
      evaluate build (all (front ++ inner ++ back)) := by
  have hnested : front ++ [all inner] ++ back ≠ [] := by simp
  have hspliced : front ++ inner ++ back ≠ [] := by simp [hinner]
  refine eq_of_forall_le_iff fun v => ?_
  simp only [le_evaluate_all_iff hnested, le_evaluate_all_iff hspliced,
    le_evaluate_all_iff hinner, List.forall_mem_append, List.forall_mem_singleton]

/-- A conjunction fails if an item does. -/
theorem evaluate_all_eq_fails {item : Filter} (hmem : item ∈ items)
    (hfails : evaluate build item = .fails) : evaluate build (all items) = .fails := by
  by_contra hall
  exact (evaluate_all_ne_fails_iff (List.ne_nil_of_mem hmem)).mp hall item hmem hfails

theorem evaluate_all_nested_nil (build : BuildNumber) (front back : List Filter) :
    evaluate build (all (front ++ [all []] ++ back)) = .fails := by
  have hmem : all [] ∈ front ++ [all []] ++ back := by simp
  exact evaluate_all_eq_fails hmem (evaluate_all_nil build)

/-! ## The result -/

/-- Conjunctions and disjunctions do not depend on the order of their items nor
on how often an item occurs, negation goes through them if and only if they
have items, lists may be spliced into lists of their kind but for a conjunction
without items, which makes every conjunction around it fail, a list of one item
is that item, and negating twice changes nothing. -/
theorem evaluate_algebra (build : BuildNumber) :
    (∀ items items' : List Filter, items.Perm items' →
      evaluate build (all items) = evaluate build (all items') ∧
        evaluate build (any items) = evaluate build (any items')) ∧
    (∀ front back : List Filter, ∀ item ∈ front ++ back,
      evaluate build (all (front ++ item :: back)) = evaluate build (all (front ++ back)) ∧
        evaluate build (any (front ++ item :: back)) = evaluate build (any (front ++ back))) ∧
    (∀ items : List Filter,
      (evaluate build (negation (all items)) = evaluate build (any (items.map negation)) ↔
          items ≠ []) ∧
        (evaluate build (negation (any items)) = evaluate build (all (items.map negation)) ↔
          items ≠ [])) ∧
    (∀ front inner back : List Filter,
      evaluate build (any (front ++ [any inner] ++ back)) =
        evaluate build (any (front ++ inner ++ back))) ∧
    (∀ front inner back : List Filter, inner ≠ [] →
      evaluate build (all (front ++ [all inner] ++ back)) =
        evaluate build (all (front ++ inner ++ back))) ∧
    (∀ front back : List Filter,
      evaluate build (all (front ++ [all []] ++ back)) = .fails) ∧
    (∀ item : Filter,
      evaluate build (all [item]) = evaluate build item ∧
        evaluate build (any [item]) = evaluate build item ∧
        evaluate build (negation (negation item)) = evaluate build item) := by
  refine ⟨fun items items' hperm => ?perm, fun front back item hmem => ?repeated,
    fun items => ⟨⟨?notAll, evaluate_negation_all⟩, ⟨?notAny, evaluate_negation_any⟩⟩,
    evaluate_any_nested build, fun front inner back hinner => ?nested,
    evaluate_all_nested_nil build,
    fun item => ⟨evaluate_all_singleton build item, evaluate_any_singleton build item,
      evaluate_negation_negation build item⟩⟩
  case perm =>
    exact ⟨evaluate_all_of_same_items fun _ => hperm.mem_iff,
      evaluate_any_of_same_items fun _ => hperm.mem_iff⟩
  case repeated =>
    exact ⟨evaluate_all_of_same_items (mem_insert_repeated hmem),
      evaluate_any_of_same_items (mem_insert_repeated hmem)⟩
  case notAll | notAny =>
    -- Without items the negation holds, and the other side fails.
    rintro hlaw rfl
    cases hlaw
  case nested => exact evaluate_all_nested build front hinner back

/-- An item that was not understood and one that fails, in both orders, the
first of them once more, negated, and in a list of its own. -/
theorem evaluate_undecided_and_failing :
    let build : BuildNumber := ⟨none, [203], by decide⟩
    let undecided := unrecognized "1"
    let failing := literal false
    [undecided, failing].Perm [failing, undecided] ∧
      evaluate build (all [undecided, failing]) = evaluate build (all [failing, undecided]) ∧
      undecided ∈ [undecided, failing] ++ [] ∧
      evaluate build (any [undecided, failing, undecided]) =
        evaluate build (any [undecided, failing]) ∧
      evaluate build (negation (any [undecided, failing])) =
        evaluate build (all [negation undecided, negation failing]) ∧
      [undecided] ≠ [] ∧
      evaluate build (all [failing, all [undecided]]) =
        evaluate build (all [failing, undecided]) := by
  intro build undecided failing
  have hperm : [undecided, failing].Perm [failing, undecided] := .swap failing undecided []
  have hmem : undecided ∈ [undecided, failing] ++ [] := List.mem_cons_self
  have hnested : [undecided] ≠ [] := List.cons_ne_nil undecided []
  obtain ⟨horder, hrepeated, hnegation, -, hspliced, -⟩ := evaluate_algebra build
  exact ⟨hperm, (horder _ _ hperm).1, hmem, (hrepeated [undecided, failing] [] undecided hmem).2,
    (hnegation [undecided, failing]).2.mpr (List.cons_ne_nil _ _), hnested,
    hspliced [failing] [undecided] [] hnested⟩

end JdkCatalog.Filter
