import JdkCatalog.Proofs.Feed.Stages
import JdkCatalog.Proofs.Selection.Log

/-!
# The log of a load

A load reports nothing until it has a document, and then what is reported about
each product, a warning if nothing is left of a feed that has products, and how
many items there are.  `load_log` says what the whole log is, and that its counts
are those of the result.
-/

namespace JdkCatalog.Feed

/-- The lines at the end of a load of a feed with so many products, of which so
many were kept and skipped. -/
def closing (url : String) (products kept skipped : Nat) : List Line :=
  (if kept = 0 ∧ products ≠ 0 then [{
      level := .warn
      message := "no JDK in the feed fits this platform"
      fields := [("url", .text url), ("products", .count products)] }]
    else []) ++ [{
      level := .info
      message := "loaded JDK feed"
      fields := [("url", .text url), ("items", .count kept), ("skipped", .count skipped)] }]

theorem lines_itemsOf (config : Config) (document : Document) :
    (itemsOf config document).lines =
      (document.report config.context).lines ++
        closing config.feedUrl document.products.length (document.items config.context).length
          (document.report config.context).value.skipped.length := by
  rw [itemsOf, Logged.lines_bind, closing, Document.items]
  generalize (document.report config.context).value = report
  have hempty : (report.items.isEmpty && !document.products.isEmpty) = true ↔
      report.items.length = 0 ∧ document.products.length ≠ 0 := by
    simp [List.isEmpty_iff]
  by_cases h : report.items.length = 0 ∧ document.products.length ≠ 0
  · rw [if_pos h, if_pos (hempty.mpr h)]
    rfl
  · rw [if_neg h, if_neg (mt hempty.mp h)]
    rfl

theorem events_itemsOf_skip? (config : Config) (document : Document) :
    (itemsOf config document).events.filterMap Event.skip? =
      (document.report config.context).value.skipped := by
  rw [itemsOf, Logged.events_bind, List.filterMap_append, Document.filterMap_skip?_report]
  generalize (document.report config.context).value = report
  dsimp only
  split <;> simp [Event.skip?]

/-! ## The result -/

variable {decoders : Compression.Decoders} {source : Source} {config : Config}
  {indicator : Indicator}

theorem events_load_of_error {e : LoadError}
    (h : (load decoders source config indicator).value.result = .error e) :
    (load decoders source config indicator).events = [] := by
  have hretrieve := load_eq_error_iff.mp h
  rw [load, hretrieve]
  rfl

/-- A load that succeeds does so on a document, and reports what looking for the
items of that document reports. -/
theorem exists_document_of_load {items : List Item}
    (h : (load decoders source config indicator).value.result = .ok items) :
    ∃ document, (retrieve decoders source config indicator).result = .ok document ∧
      items = document.items config.context ∧
      (load decoders source config indicator).events = (itemsOf config document).events := by
  rw [result_load] at h
  cases hretrieve : (retrieve decoders source config indicator).result with
  | error e =>
    rw [hretrieve] at h
    cases h
  | ok document =>
    rw [hretrieve] at h
    refine ⟨document, rfl, (Except.ok.inj h).symm, ?_⟩
    rw [load, hretrieve]
    exact List.append_nil _

/-- A load that fails reports nothing.  A load that succeeds has a document, and
reports product by product, in the order of the feed, the packages that are
dropped, the packages that are refused and that the product is skipped, if it
is; then that nothing fits, if nothing does although there are products; and last
how many items there are and how many products were skipped, which are all
products together.  The products that are named as skipped are those of the
report on the document, with their places and reasons. -/
theorem load_log (decoders : Compression.Decoders) (source : Source) (config : Config)
    (indicator : Indicator) :
    (∀ e, (load decoders source config indicator).value.result = .error e →
      (load decoders source config indicator).events = []) ∧
    ∀ items, (load decoders source config indicator).value.result = .ok items →
      ∃ document skipped, (retrieve decoders source config indicator).result = .ok document ∧
        items.length + skipped = document.products.length ∧
        (load decoders source config indicator).lines =
          (document.products.zipIdx.flatMap fun (raw, index) =>
              Product.droppings raw ++ Selection.rejections config.context raw ++
                Selection.skips config.context index raw) ++
            closing config.feedUrl document.products.length items.length skipped ∧
        (load decoders source config indicator).events.filterMap Event.skip? =
          (document.report config.context).value.skipped := by
  refine ⟨fun e => events_load_of_error, fun items hitems => ?_⟩
  obtain ⟨document, hdocument, rfl, hevents⟩ := exists_document_of_load hitems
  have hcounts := (Report.accountsFor_ofSelections (document.outcomes config.context)).length_eq
  rw [← Document.value_report, Document.outcomes, List.length_map] at hcounts
  refine ⟨document, (document.report config.context).value.skipped.length, hdocument, hcounts,
    ?_, ?_⟩
  · rw [Logged.lines, hevents]
    exact (lines_itemsOf config document).trans (by rw [Document.lines_report]; rfl)
  · rw [hevents, events_itemsOf_skip?]

/-- Of a feed with a vendor without a JDK and with `null` nothing is left, and that
is warned of after both have been named; one who does not wait any more is told
nothing. -/
theorem load_log_of_nothing_fits :
    let config : Config := ⟨"mem", ⟨none, [203], by decide⟩, .linux, .x86_64⟩
    let source := Source.fixed (Text.utf8 "\x7b\"jdks\":[\x7b\"vendor\":\"V\"\x7d,null]\x7d")
    (load .standard source config (.ofFlag true)).events = [] ∧
      (load .standard source config .silent).value.result = .ok [] ∧
      ∃ document skipped, (retrieve .standard source config .silent).result = .ok document ∧
        0 + skipped = document.products.length ∧
        (load .standard source config .silent).lines =
          (document.products.zipIdx.flatMap fun (raw, index) =>
              Product.droppings raw ++ Selection.rejections config.context raw ++
                Selection.skips config.context index raw) ++
            closing "mem" document.products.length 0 skipped ∧
        (load .standard source config .silent).events.filterMap Event.skip? =
          (document.report config.context).value.skipped := by
  intro config source
  have hcanceled : (load .standard source config (.ofFlag true)).value.result =
      .error (.fetch "mem" (.canceled {})) := rfl
  have hitems : (load .standard source config .silent).value.result.toOption = some [] := by
    decide +kernel
  have hresult : (load .standard source config .silent).value.result = .ok [] := by
    cases hload : (load .standard source config .silent).value.result with
    | error e =>
      rw [hload] at hitems
      cases hitems
    | ok items =>
      rw [hload] at hitems
      exact congrArg Except.ok (Option.some.inj hitems)
  exact ⟨(load_log .standard source config (.ofFlag true)).1 _ hcanceled, hresult,
    (load_log .standard source config .silent).2 [] hresult⟩

end JdkCatalog.Feed
