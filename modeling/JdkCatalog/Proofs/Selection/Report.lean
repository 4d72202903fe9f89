import JdkCatalog.Selection

/-!
# Reports account for every product

A report is built by a loop that goes through the feed once, counts the
products and adds each to one of two lists.  This module says what the two
lists are at the end, for feeds of any length and whatever their elements are.

* `located` gives the two lists a common form: what a function finds in a
  list, with the places where it finds it.  The lemmas about it are those of a
  filtered list whose places are counted.
* `items_pushFrom` and `skipped_pushFrom` are what the loop adds to a report it
  starts from; `items_push` and `skipped_push` are one step of it.
* `AccountsFor` says that a report loses, repeats and moves nothing, and
  `report_productwise` that reports do so, together with what follows for
  feeds that differ in one product and for feeds put one after the other.
-/

namespace JdkCatalog

namespace Report

/-! ## Places -/

section Located

variable {α β γ : Type} (f : α → Option β)

/-- What a function finds in a list, with the places where it finds it,
counted from a given one. -/
def located (first : Nat) (as : List α) : List (Nat × β) :=
  (as.zipIdx first).filterMap fun (a, place) => (f a).map fun b => (place, b)

@[simp] theorem located_nil (first : Nat) : located f first [] = [] := rfl

theorem located_cons (first : Nat) (a : α) (as : List α) :
    located f first (a :: as) =
      ((f a).map fun b => (first, b)).toList ++ located f (first + 1) as := by
  cases ha : f a <;> simp [located, ha]

theorem located_append (first : Nat) (as bs : List α) :
    located f first (as ++ bs) = located f first as ++ located f (first + as.length) bs := by
  rw [located, List.zipIdx_append, List.filterMap_append]
  rfl

/-- Counting from a later place moves every place by as much. -/
theorem located_add (offset first : Nat) (as : List α) :
    located f (offset + first) as = (located f first as).map (Prod.map (offset + ·) id) := by
  induction as generalizing first with
  | nil => rfl
  | cons a as ih =>
    rw [located_cons, located_cons, List.map_append, Nat.add_assoc, ih]
    cases f a <;> rfl

theorem map_snd_located (first : Nat) (as : List α) :
    (located f first as).map Prod.snd = as.filterMap f := by
  induction as generalizing first with
  | nil => rfl
  | cons a as ih =>
    rw [located_cons, List.map_append, ih, List.filterMap_cons]
    cases f a <;> rfl

theorem mem_located {as : List α} {place : Nat} {b : β} :
    (place, b) ∈ located f 0 as ↔ ∃ a, as[place]? = some a ∧ f a = some b := by
  simp only [located, List.mem_filterMap, Prod.exists, List.mk_mem_zipIdx_iff_getElem?,
    Option.map_eq_some_iff, Prod.mk.injEq]
  constructor
  · intro hmem
    rcases hmem with ⟨a, _, ha, _, hb, rfl, rfl⟩
    exact ⟨a, ha, hb⟩
  · intro hfound
    rcases hfound with ⟨a, ha, hb⟩
    exact ⟨a, place, ha, b, hb, rfl, rfl⟩

theorem map_fst_located_sublist (first : Nat) (as : List α) :
    ((located f first as).map Prod.fst).Sublist (List.range' first as.length) := by
  induction as generalizing first with
  | nil => exact .slnil
  | cons a as ih =>
    rw [located_cons, List.map_append, List.length_cons, List.range'_succ]
    cases f a with
    | none => exact (ih (first + 1)).cons first
    | some b => exact (ih (first + 1)).cons_cons first

/-- The places increase from each find to the next. -/
theorem pairwise_located (first : Nat) (as : List α) :
    (located f first as).Pairwise fun x y => x.1 < y.1 :=
  List.pairwise_map.mp
    ((List.pairwise_lt_range' _).sublist (map_fst_located_sublist f first as))

/-- If of two functions always one and only one finds something, their places
are all places, each once. -/
theorem map_fst_located_perm {f : α → Option β} {g : α → Option γ}
    (hone : ∀ a, (f a).isSome = (g a).isNone) (first : Nat) (as : List α) :
    ((located f first as).map Prod.fst ++ (located g first as).map Prod.fst).Perm
      (List.range' first as.length) := by
  induction as generalizing first with
  | nil => exact .nil
  | cons a as ih =>
    rw [located_cons, located_cons, List.map_append, List.map_append, List.length_cons,
      List.range'_succ]
    have ha := hone a
    cases hf : f a with
    | none =>
      obtain ⟨c, hg⟩ : ∃ c, g a = some c := by
        rw [hf] at ha
        exact Option.isSome_iff_exists.mp (by simpa using ha.symm)
      rw [hg]
      exact List.perm_middle.trans ((ih (first + 1)).cons first)
    | some b =>
      have hg : g a = none := by
        rw [hf] at ha
        exact Option.isNone_iff_eq_none.mp ha.symm
      rw [hg]
      exact (ih (first + 1)).cons first

end Located

/-! ## The loop -/

@[simp] theorem items_push (report : Report) (index : Nat) (selection : Selection) :
    (report.push index selection).items = report.items ++ selection.item?.toList := by
  cases selection <;> simp [push, items, Selection.item?]

@[simp] theorem skipped_push (report : Report) (index : Nat) (selection : Selection) :
    (report.push index selection).skipped =
      report.skipped ++ (selection.rejection?.map fun reason => (index, reason)).toList := by
  cases selection <;> simp [push, skipped, Selection.rejection?]

theorem items_pushFrom (report : Report) (index : Nat) (selections : List Selection) :
    (report.pushFrom index selections).items =
      report.items ++ selections.filterMap Selection.item? := by
  induction selections generalizing report index with
  | nil => simp [pushFrom]
  | cons selection selections ih =>
    rw [pushFrom, ih, items_push, List.append_assoc, List.filterMap_cons]
    cases selection.item? <;> rfl

/-- The place at which the loop goes on is that of the next product. -/
theorem skipped_pushFrom (report : Report) (index : Nat) (selections : List Selection) :
    (report.pushFrom index selections).skipped =
      report.skipped ++ located Selection.rejection? index selections := by
  induction selections generalizing report index with
  | nil => simp [pushFrom]
  | cons selection selections ih =>
    rw [pushFrom, ih, skipped_push, List.append_assoc, located_cons]

theorem items_ofSelections (selections : List Selection) :
    (ofSelections selections).items = selections.filterMap Selection.item? := by
  rw [ofSelections, items_pushFrom]
  rfl

theorem skipped_ofSelections (selections : List Selection) :
    (ofSelections selections).skipped = located Selection.rejection? 0 selections := by
  rw [ofSelections, skipped_pushFrom]
  rfl

/-! ## What a report says -/

/-- Nothing of what became of the products of a feed is lost in a report,
nothing is in it twice, and nothing is out of order. -/
structure AccountsFor (report : Report) (outcomes : List Selection) : Prop where
  /-- The items are those of the products that were kept, in the order of the
  feed. -/
  items_eq : report.items = outcomes.filterMap Selection.item?
  /-- The products that are named as skipped were, each at its place and for
  its reason, and no other was. -/
  mem_skipped : ∀ place reason,
    (place, reason) ∈ report.skipped ↔ outcomes[place]? = some (.skipped reason)
  /-- The skipped products are named in the order of the feed. -/
  skipped_increasing : report.skipped.Pairwise fun x y => x.1 < y.1
  /-- The items have places as well, also in the order of the feed, and every
  place is either that of an item or that of a skipped product, once. -/
  places : ∃ kept : List (Nat × Item),
    kept.map Prod.snd = report.items ∧
    (∀ place item, (place, item) ∈ kept ↔ outcomes[place]? = some (.kept item)) ∧
    (kept.Pairwise fun x y => x.1 < y.1) ∧
    (kept.map Prod.fst ++ report.skipped.map Prod.fst).Perm (List.range outcomes.length)
  /-- There are as many products with an item and without as there are. -/
  length_eq : report.items.length + report.skipped.length = outcomes.length

theorem mem_located_item? {selections : List Selection} {place : Nat} {item : Item} :
    (place, item) ∈ located Selection.item? 0 selections ↔
      selections[place]? = some (.kept item) := by
  rw [mem_located]
  constructor
  · intro hfound
    rcases hfound with ⟨selection, hplace, hitem⟩
    cases selection with
    | kept item' => cases hitem; exact hplace
    | skipped reason => cases hitem
  · intro hplace
    exact ⟨_, hplace, rfl⟩

theorem mem_located_rejection? {selections : List Selection} {place : Nat} {reason : Rejection} :
    (place, reason) ∈ located Selection.rejection? 0 selections ↔
      selections[place]? = some (.skipped reason) := by
  rw [mem_located]
  constructor
  · intro hfound
    rcases hfound with ⟨selection, hplace, hreason⟩
    cases selection with
    | kept item => cases hreason
    | skipped reason' => cases hreason; exact hplace
  · intro hplace
    exact ⟨_, hplace, rfl⟩

theorem isSome_item? (selection : Selection) :
    selection.item?.isSome = selection.rejection?.isNone := by
  cases selection <;> rfl

theorem accountsFor_ofSelections (selections : List Selection) :
    (ofSelections selections).AccountsFor selections := by
  have hperm := map_fst_located_perm isSome_item? 0 selections
  have hitems := map_snd_located Selection.item? 0 selections
  constructor
  case items_eq => exact items_ofSelections selections
  case mem_skipped =>
    intro place reason
    rw [skipped_ofSelections]
    exact mem_located_rejection?
  case skipped_increasing =>
    rw [skipped_ofSelections]
    exact pairwise_located _ _ _
  case places =>
    rw [items_ofSelections, skipped_ofSelections, List.range_eq_range']
    exact ⟨located Selection.item? 0 selections, hitems, fun _ _ => mem_located_item?,
      pairwise_located _ _ _, hperm⟩
  case length_eq =>
    have hlength := hperm.length_eq
    rw [List.length_append, List.length_map, List.length_map, List.length_range'] at hlength
    rw [items_ofSelections, skipped_ofSelections, ← hitems, List.length_map]
    exact hlength

end Report

namespace Document

/-! ## Documents -/

/-- What becomes of the products of a feed, one by one. -/
def outcomes (document : Document) (ctx : Context) : List Selection :=
  document.products.map fun raw => (Selection.ofJson raw ctx).value

theorem value_selectAt (ctx : Context) (product : Json × Nat) :
    (selectAt ctx product).value = (Selection.ofJson product.1 ctx).value := by
  simp only [selectAt, Logged.value_bind]
  split <;> rfl

theorem value_report (document : Document) (ctx : Context) :
    (document.report ctx).value = .ofSelections (document.outcomes ctx) := by
  have houtcomes :
      (document.products.zipIdx.map fun product => (selectAt ctx product).value) =
        document.outcomes ctx := by
    simp only [value_selectAt]
    calc document.products.zipIdx.map (fun product => (Selection.ofJson product.1 ctx).value)
      _ = (document.products.zipIdx.map Prod.fst).map
            (fun raw => (Selection.ofJson raw ctx).value) := by rw [List.map_map]; rfl
      _ = document.outcomes ctx := by rw [List.zipIdx_map_fst, outcomes]
  rw [report, Logged.value_bind, Logged.value_forEach, Logged.value_pure, houtcomes]

theorem items_report (document : Document) (ctx : Context) :
    (document.report ctx).value.items = (document.outcomes ctx).filterMap Selection.item? := by
  rw [value_report, Report.items_ofSelections]

theorem skipped_report (document : Document) (ctx : Context) :
    (document.report ctx).value.skipped =
      Report.located Selection.rejection? 0 (document.outcomes ctx) := by
  rw [value_report, Report.skipped_ofSelections]

theorem length_outcomes (products : List Json) (ctx : Context) :
    (outcomes ⟨products⟩ ctx).length = products.length := by
  rw [outcomes, List.length_map]

theorem outcomes_append (products products' : List Json) (ctx : Context) :
    outcomes ⟨products ++ products'⟩ ctx = outcomes ⟨products⟩ ctx ++ outcomes ⟨products'⟩ ctx :=
  List.map_append

theorem outcomes_cons (raw : Json) (products : List Json) (ctx : Context) :
    outcomes ⟨raw :: products⟩ ctx =
      (Selection.ofJson raw ctx).value :: outcomes ⟨products⟩ ctx :=
  rfl

theorem items_report_append (products products' : List Json) (ctx : Context) :
    (report ⟨products ++ products'⟩ ctx).value.items =
      (report ⟨products⟩ ctx).value.items ++ (report ⟨products'⟩ ctx).value.items := by
  rw [items_report, items_report, items_report, outcomes_append, List.filterMap_append]

/-- The places of the second part are counted on from the end of the first. -/
theorem skipped_report_append (products products' : List Json) (ctx : Context) :
    (report ⟨products ++ products'⟩ ctx).value.skipped =
      (report ⟨products⟩ ctx).value.skipped ++
        (report ⟨products'⟩ ctx).value.skipped.map (Prod.map (products.length + ·) id) := by
  rw [skipped_report, skipped_report, skipped_report, outcomes_append, Report.located_append,
    length_outcomes, Nat.zero_add, ← Report.located_add, Nat.add_zero]

/-- What one product contributes to the items stands between what the products
before it and those after it contribute, and does not affect either. -/
theorem items_report_around (before after : List Json) (raw : Json) (ctx : Context) :
    (report ⟨before ++ raw :: after⟩ ctx).value.items =
      (report ⟨before⟩ ctx).value.items ++ (Selection.ofJson raw ctx).value.item?.toList ++
        (report ⟨after⟩ ctx).value.items := by
  rw [items_report_append, List.append_assoc, items_report ⟨raw :: after⟩, outcomes_cons,
    List.filterMap_cons, ← items_report]
  cases (Selection.ofJson raw ctx).value.item? <;> rfl

/-- The same for the skipped products. -/
theorem skipped_report_around (before after : List Json) (raw : Json) (ctx : Context) :
    (report ⟨before ++ raw :: after⟩ ctx).value.skipped =
      (report ⟨before⟩ ctx).value.skipped ++
        ((Selection.ofJson raw ctx).value.rejection?.map
          fun reason => (before.length, reason)).toList ++
        (report ⟨after⟩ ctx).value.skipped.map (Prod.map (before.length + 1 + ·) id) := by
  rw [skipped_report, skipped_report, skipped_report, outcomes_append, outcomes_cons,
    Report.located_append, Report.located_cons, length_outcomes, Nat.zero_add,
    ← Report.located_add, Nat.add_zero, List.append_assoc]

/-- The report on a feed accounts for what became of every product, `items`
are its items, one product of the feed affects what is its own in the report
and nothing else, and the report on two feeds put together is that on the
first followed by that on the second. -/
theorem report_productwise (ctx : Context) :
    (∀ document : Document,
      (document.report ctx).value.AccountsFor
          (document.products.map fun raw => (Selection.ofJson raw ctx).value) ∧
        document.items ctx = (document.report ctx).value.items) ∧
    (∀ (before after : List Json) (raw : Json),
      (report ⟨before ++ raw :: after⟩ ctx).value.items =
          (report ⟨before⟩ ctx).value.items ++ (Selection.ofJson raw ctx).value.item?.toList ++
            (report ⟨after⟩ ctx).value.items ∧
        (report ⟨before ++ raw :: after⟩ ctx).value.skipped =
          (report ⟨before⟩ ctx).value.skipped ++
            ((Selection.ofJson raw ctx).value.rejection?.map
              fun reason => (before.length, reason)).toList ++
            (report ⟨after⟩ ctx).value.skipped.map (Prod.map (before.length + 1 + ·) id)) ∧
    (∀ products products' : List Json,
      (report ⟨products ++ products'⟩ ctx).value.items =
          (report ⟨products⟩ ctx).value.items ++ (report ⟨products'⟩ ctx).value.items ∧
        (report ⟨products ++ products'⟩ ctx).value.skipped =
          (report ⟨products⟩ ctx).value.skipped ++
            (report ⟨products'⟩ ctx).value.skipped.map (Prod.map (products.length + ·) id)) := by
  refine ⟨fun document => ⟨?_, rfl⟩, fun before after raw => ?_, fun products products' => ?_⟩
  · rw [value_report]
    exact Report.accountsFor_ofSelections (document.outcomes ctx)
  · exact ⟨items_report_around before after raw ctx, skipped_report_around before after raw ctx⟩
  · exact ⟨items_report_append products products' ctx,
      skipped_report_append products products' ctx⟩

end Document

end JdkCatalog
