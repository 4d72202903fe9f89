import JdkCatalog.Proofs.Selection.Outcome
import JdkCatalog.Proofs.Selection.Report
import Mathlib.Data.List.Basic

/-!
# What is reported about the products of a feed

While a feed is searched it is reported which packages are dropped, which
packages are refused for their filter and which products are skipped.  These
events come from the loop that reads the packages of a product, from the loop
that looks for one that fits, and from the loop over the feed, and the second of
them stops at its first success.  This module says which lines the log of a feed
has, in terms of the values that were written in the feed.

* `Event.line` is an event as it stands in the log.
* `droppings`, `rejections` and `skips` are the lines of one product, and
  `productLines` is what they are together.
* `lines_readPackages` and `lines_firstFitting` go through the two loops over
  packages.  `lines_read`, `lines_select` and `lines_selectAt` say what their
  callers add, and `lines_report` is the log of a whole feed.
* `filterMap_skip?_report` says that the report and the log name the same
  products as skipped.
-/

namespace JdkCatalog

/-! ## Lines -/

/-- An event as it stands in the log. -/
structure Line where
  level : Level
  message : String
  fields : List (String × EventValue)

/-- The line of an event. -/
def Event.line (event : Event) : Line :=
  ⟨event.level, event.message, event.fields⟩

/-- The place and the reason, if an event is that a product is skipped. -/
def Event.skip? : Event → Option (Nat × Rejection)
  | skippingProduct index _ _ reason => some (index, reason)
  | _ => none

namespace Logged

variable {α β : Type}

/-- The log of a computation. -/
def lines (x : Logged α) : List Line :=
  x.events.map Event.line

@[simp] theorem lines_pure (a : α) : (pure a : Logged α).lines = [] := rfl

@[simp] theorem lines_bind (x : Logged α) (f : α → Logged β) :
    (x >>= f).lines = x.lines ++ (f x.value).lines := by
  simp [lines]

@[simp] theorem lines_report (event : Event) : (report event).lines = [event.line] := rfl

@[simp] theorem lines_forEach (as : List α) (f : α → Logged β) :
    (forEach as f).lines = as.flatMap fun a => (f a).lines := by
  simp [lines, List.map_flatMap]

end Logged

/-! ## Packages that are dropped -/

/-- Why a package cannot be read, if it cannot. -/
def Package.fault? (raw : Json) : Option Rejection :=
  match read raw with
  | .ok _ => none
  | .error reason => some reason

namespace Product

/-- The line for a package that is dropped. -/
def droppingLine (vendor version : String) (index : Nat) (reason : Rejection) : Line where
  level := .trace
  message := "dropping package"
  fields := [("vendor", .text vendor), ("version", .text version), ("index", .count index),
    ("reason", .text reason.message)]

/-- What a product says before its packages, as far as the log shows it, and the
packages. -/
structure Opening where
  vendor : String
  version : String
  packages : List Json

/-- The opening of a product, if vendor, major version, version, name and packages
are right.  The other fields do not matter. -/
def opening? (raw : Json) : Option Opening := do
  let vendor ← (raw.part? "vendor").bind Json.string?
  let major ← (raw.part? "jdk_version_major").bind Json.natural?
  let version ← (raw.part? "jdk_version").bind Json.string?
  let _ ← (raw.part? "suggested_sdk_name").bind Json.string?
  let packages ← (raw.part? "packages").bind Json.array?
  if major.toNat < UInt32.size then some { vendor, version, packages } else none

/-- The lines for the packages that are dropped from a product, by their places in
its array. -/
def droppings (raw : Json) : List Line :=
  match opening? raw with
  | none => []
  | some opening =>
    (Report.located Package.fault? 0 opening.packages).map fun (index, reason) =>
      droppingLine opening.vendor opening.version index reason

theorem lines_readPackages (vendor version : String) (index : Nat) (raws : List Json) :
    (readPackages vendor version index raws).lines =
      (Report.located Package.fault? index raws).map fun (index, reason) =>
        droppingLine vendor version index reason := by
  induction raws generalizing index with
  | nil => rfl
  | cons raw raws ih =>
    rw [readPackages, Report.located_cons, List.map_append, ← ih, Package.fault?]
    cases Package.read raw with
    | ok package => simp
    | error reason => simp [droppingLine, Event.line, Event.level, Event.message, Event.fields]

/-- The opening is right if and only if reading the product comes as far as its
packages. -/
theorem opening?_eq_some_iff {raw : Json} {opening : Opening} :
    opening? raw = some opening ↔
      ∃ head, readHead raw = .ok head ∧
        opening = ⟨head.vendor, head.jdkVersion, head.rawPackages⟩ := by
  simp only [opening?, Option.bind_eq_bind, Option.bind_eq_some_iff, Json.string?_eq_some_iff,
    Json.natural?_eq_some_iff, Json.array?_eq_some_iff]
  constructor
  · intro h
    obtain ⟨vendor, ⟨_, hvendor, rfl⟩, major, ⟨_, hmajor, rfl⟩, version, ⟨_, hversion, rfl⟩, name,
      ⟨_, hname, rfl⟩, packages, ⟨_, hpackages, rfl⟩, hopening⟩ := h
    split at hopening
    · rename_i hlt
      obtain ⟨members, rfl⟩ := Json.exists_object_of_part? hvendor
      refine ⟨⟨members, vendor, major.toUInt32, version, name, packages⟩, ?_,
        (Option.some.inj hopening).symm⟩
      have hmajor32 : major.toUInt32.toUInt64 = major := Field.toUInt64_toUInt32_of_lt hlt
      exact readHead_eq_ok_iff.mpr
        ⟨rfl, hvendor, by rw [hmajor32]; exact hmajor, hversion, hname, hpackages⟩
    · cases hopening
  · intro h
    obtain ⟨head, hhead, rfl⟩ := h
    obtain ⟨-, hvendor, hmajor, hversion, hname, hpackages⟩ := readHead_eq_ok_iff.mp hhead
    refine ⟨_, ⟨_, hvendor, rfl⟩, _, ⟨_, hmajor, rfl⟩, _, ⟨_, hversion, rfl⟩, _,
      ⟨_, hname, rfl⟩, _, ⟨_, hpackages, rfl⟩, ?_⟩
    have hlt : head.jdkVersionMajor.toUInt64.toNat < UInt32.size := by
      rw [UInt32.toNat_toUInt64]
      exact head.jdkVersionMajor.toNat_lt_size
    rw [if_pos hlt]

/-- A product that can be read has an opening. -/
theorem StatedBy.opening?_eq {raw : Json} {p : Product} (h : p.StatedBy raw)
    {elements : List Json} (hpackages : raw.part? "packages" = some (.array elements)) :
    opening? raw = some ⟨p.vendor, p.jdkVersion, elements⟩ := by
  have hlt : p.jdkVersionMajor.toNat < UInt32.size := p.jdkVersionMajor.toNat_lt_size
  simp [opening?, h.vendor, h.jdkVersionMajor, h.jdkVersion, h.suggestedSdkName, hpackages,
    Json.string?, Json.natural?, Json.array?, hlt]

theorem lines_read (raw : Json) : (Product.read raw).lines = droppings raw := by
  rw [Product.read]
  cases hhead : readHead raw with
  | error reason =>
    have hnone : opening? raw = none := by
      rw [Option.eq_none_iff_forall_not_mem]
      intro opening hopening
      obtain ⟨head, hok, -⟩ := opening?_eq_some_iff.mp hopening
      rw [hhead] at hok
      cases hok
    rw [droppings, hnone]
    rfl
  | ok head =>
    rw [droppings, opening?_eq_some_iff.mpr ⟨head, hhead, rfl⟩]
    simp [lines_readPackages]

end Product

/-! ## Packages that are refused -/

/-- The line for a package that is for the platform, but not for the build. -/
def Package.refusal? (ctx : Context) (package : Package) : Option Line :=
  let verdict := Filter.evaluate? ctx.build package.filter
  if package.os = ctx.os ∧ package.arch = ctx.arch ∧ verdict ≠ .holds then
    some {
      level := .trace
      message := "package filter rejected"
      fields := [("url", .text package.url), ("verdict", .text verdict.text)] }
  else
    none

theorem Product.lines_firstFitting (ctx : Context) (packages : List Package) :
    (firstFitting ctx packages).lines =
      (packages.takeWhile fun package => !decide (package.Fits ctx)).filterMap
        (Package.refusal? ctx) := by
  induction packages with
  | nil => rfl
  | cons package packages ih =>
    rw [firstFitting]
    by_cases hplatform : package.os = ctx.os ∧ package.arch = ctx.arch
    · rw [if_pos hplatform]
      cases hfilter : Filter.evaluate? ctx.build package.filter with
      | holds =>
        have hfits : package.Fits ctx := ⟨hplatform.1, hplatform.2, hfilter⟩
        simp [hfits]
      | fails | unknown =>
        have hfits : ¬ package.Fits ctx := by simp [Package.Fits, hfilter]
        simp [hfits, ih, Package.refusal?, hplatform, hfilter, Event.line, Event.level,
          Event.message, Event.fields]
    · have hfits : ¬ package.Fits ctx := fun h => hplatform ⟨h.1, h.2.1⟩
      have hrefusal : package.refusal? ctx = none := by
        rw [Package.refusal?, if_neg fun h => hplatform ⟨h.1, h.2.1⟩]
      simp [hfits, ih, hrefusal, hplatform]

namespace Selection

instance (ctx : Context) (raw : Json) : Decidable (Suits ctx raw) :=
  decidable_of_iff _ any_read?_iff_suits

/-- The lines for the packages that are refused: those for the platform that can
be read and stand before the one that is chosen, or anywhere if none is. -/
def rejections (ctx : Context) (raw : Json) : List Line :=
  match (Product.read raw).value, Product.opening? raw with
  | .ok _, some opening =>
    if filterVerdict ctx raw = .holds then
      (opening.packages.takeWhile fun element => ¬ Suits ctx element).filterMap fun element =>
        (Package.read? element).bind (Package.refusal? ctx)
    else
      []
  | _, _ => []

theorem all_not_fits_read? (ctx : Context) (raw : Json) :
    ((Package.read? raw).all fun package => !decide (package.Fits ctx)) =
      decide (¬ Suits ctx raw) := by
  cases hread : Package.read? raw with
  | none =>
    have hsuits : ¬ Suits ctx raw := by
      intro h
      obtain ⟨package, hpackage⟩ := h.readable
      rw [Package.read?_eq_some_iff.mpr hpackage] at hread
      cases hread
    simp [hsuits]
  | some package =>
    have hfits : package.Fits ctx ↔ Suits ctx raw :=
      fits_iff_suits (Package.read?_eq_some_iff.mp hread)
    simp [hfits]

/-- Dropping the elements that cannot be read affects neither which packages are
refused nor which stand before the one that is chosen. -/
theorem filterMap_refusal?_read? (ctx : Context) (elements : List Json) :
    (((elements.filterMap Package.read?).takeWhile fun package =>
        !decide (package.Fits ctx)).filterMap (Package.refusal? ctx)) =
      (elements.takeWhile fun element => ¬ Suits ctx element).filterMap fun element =>
        (Package.read? element).bind (Package.refusal? ctx) := by
  simp only [List.takeWhile_filterMap, List.filterMap_filterMap, all_not_fits_read?]

theorem lines_select {ctx : Context} {raw : Json} {p : Product}
    (hread : (Product.read raw).value = .ok p) : (p.select ctx).lines = rejections ctx raw := by
  have hstated := Product.read_eq_ok_iff.mp hread
  obtain ⟨elements, hpackages, hread?⟩ := hstated.packages
  rw [rejections, hread, hstated.opening?_eq hpackages, Product.select,
    evaluate?_eq_filterVerdict hstated.filter]
  cases hverdict : filterVerdict ctx raw with
  | fails | unknown => rfl
  | holds =>
    rw [Logged.lines_bind, Product.lines_firstFitting, hread?, filterMap_refusal?_read?]
    -- What is made of the package that is chosen is not reported.
    cases (Product.firstFitting ctx (elements.filterMap Package.read?)).value with
    | none | some package => exact List.append_nil _

theorem lines_ofJson (ctx : Context) (raw : Json) :
    (Selection.ofJson raw ctx).lines = Product.droppings raw ++ rejections ctx raw := by
  rw [ofJson, Logged.lines_bind, Product.lines_read]
  cases hread : (Product.read raw).value with
  | error reason =>
    have hnone : rejections ctx raw = [] := by rw [rejections, hread]
    rw [hnone]
    rfl
  | ok p =>
    dsimp only
    rw [lines_select hread]

/-! ## Products that are skipped -/

/-- A text of a product for the log; a question mark if the value has none. -/
def named (key : String) (raw : Json) : String :=
  match raw.part? key with
  | some (.string s) => s
  | _ => "?"

/-- The line for a product that is skipped, if it is. -/
def skips (ctx : Context) (index : Nat) (raw : Json) : List Line :=
  match (Selection.ofJson raw ctx).value with
  | .kept _ => []
  | .skipped reason => [{
      level := .debug
      message := "skipping JDK product"
      fields := [("index", .count index), ("vendor", .text (named "vendor" raw)),
        ("version", .text (named "jdk_version" raw)), ("reason", .text reason.message)] }]

/-- The lines for the product at a place of a feed. -/
def productLines (ctx : Context) (index : Nat) (raw : Json) : List Line :=
  Product.droppings raw ++ rejections ctx raw ++ skips ctx index raw

theorem shown_eq_named (key : String) (raw : Json) : Document.shown key raw = named key raw := by
  rw [Document.shown, named, Json.part?]
  cases raw.member? key with
  | none => rfl
  | some value => cases value <;> rfl

theorem lines_selectAt (ctx : Context) (product : Json × Nat) :
    (Document.selectAt ctx product).lines = productLines ctx product.2 product.1 := by
  obtain ⟨raw, index⟩ := product
  rw [Document.selectAt, productLines, ← lines_ofJson, skips]
  simp only [Logged.lines_bind]
  cases (Selection.ofJson raw ctx).value with
  | kept item => simp
  | skipped reason =>
    simp [Event.line, Event.level, Event.message, Event.fields, shown_eq_named]

end Selection

/-! ## The log of a feed -/

namespace Document

/-- Every product has its lines, in the order of the feed. -/
theorem lines_report (document : Document) (ctx : Context) :
    (document.report ctx).lines =
      document.products.zipIdx.flatMap fun (raw, index) =>
        Selection.productLines ctx index raw := by
  rw [report]
  simp [Selection.lines_selectAt]

/-! ## The report and the log -/

theorem level_of_mem_droppings {raw : Json} {line : Line} (h : line ∈ Product.droppings raw) :
    line.level = .trace := by
  rw [Product.droppings] at h
  split at h
  · cases h
  · obtain ⟨dropped, -, rfl⟩ := List.mem_map.mp h
    rfl

theorem level_of_mem_rejections {ctx : Context} {raw : Json} {line : Line}
    (h : line ∈ Selection.rejections ctx raw) : line.level = .trace := by
  rw [Selection.rejections] at h
  split at h
  · split at h
    · obtain ⟨element, -, hrefusal⟩ := List.mem_filterMap.mp h
      obtain ⟨package, -, hpackage⟩ := Option.bind_eq_some_iff.mp hrefusal
      simp only [Package.refusal?] at hpackage
      split at hpackage
      · cases hpackage
        rfl
      · cases hpackage
    · cases h
  · cases h

theorem Event.skip?_eq_none_of_level {event : Event} (h : event.line.level = .trace) :
    event.skip? = none := by
  cases event with
  | skippingProduct => cases h
  | _ => rfl

/-- No event before the last one of a product is that it is skipped. -/
theorem filterMap_skip?_ofJson (ctx : Context) (raw : Json) :
    (Selection.ofJson raw ctx).events.filterMap Event.skip? = [] := by
  rw [List.filterMap_eq_nil_iff]
  intro event hevent
  apply Event.skip?_eq_none_of_level
  have hline : event.line ∈ (Selection.ofJson raw ctx).lines := List.mem_map_of_mem hevent
  rw [Selection.lines_ofJson, List.mem_append] at hline
  rcases hline with hline | hline
  · exact level_of_mem_droppings hline
  · exact level_of_mem_rejections hline

theorem filterMap_skip?_selectAt (ctx : Context) (product : Json × Nat) :
    (selectAt ctx product).events.filterMap Event.skip? =
      ((Selection.ofJson product.1 ctx).value.rejection?.map
        fun reason => (product.2, reason)).toList := by
  obtain ⟨raw, index⟩ := product
  rw [selectAt]
  simp only [Logged.events_bind, List.filterMap_append, filterMap_skip?_ofJson]
  cases (Selection.ofJson raw ctx).value with
  | kept item => rfl
  | skipped reason => rfl

/-- The log names the products that the report has as skipped, in the same order
and for the same reasons. -/
theorem filterMap_skip?_report (document : Document) (ctx : Context) :
    (document.report ctx).events.filterMap Event.skip? =
      (document.report ctx).value.skipped := by
  have hskipped : (document.report ctx).value.skipped =
      document.products.zipIdx.flatMap fun product =>
        ((Selection.ofJson product.1 ctx).value.rejection?.map
          fun reason => (product.2, reason)).toList := by
    rw [skipped_report, Report.located, outcomes, List.zipIdx_map, List.filterMap_map,
      List.filterMap_eq_flatMap_toList]
    rfl
  rw [hskipped, report]
  simp only [Logged.events_bind, Logged.events_forEach, Logged.events_pure, List.append_nil,
    List.filterMap_flatMap, filterMap_skip?_selectAt]

end Document

end JdkCatalog
