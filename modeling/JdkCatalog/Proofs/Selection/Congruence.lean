import JdkCatalog.Proofs.Filter.Congruence
import JdkCatalog.Selection
import Mathlib.Data.List.Forall2
import Mathlib.Data.Option.Defs

/-!
# Equal products are selected alike

What becomes of a product depends on its filters only through their verdicts.
Products that are the same but for filters with the same verdicts come to the
same selection, and so do equal products in equal contexts, whatever the codes
of the build numbers in them.

* `Logged.Related` compares two computations that report: what they return is
  related, and what they report is the same.
* `Package.Interchangeable` and `Product.Interchangeable` say what may differ.
* `related_firstFitting` is the search for a package, by induction on the
  packages, and `select_congr` the selection.
* `Product.interchangeable_of_beq` brings equality to that.
-/

namespace JdkCatalog

/-! ## Computations that report the same -/

/-- Two computations report the same events, and their results are related. -/
structure Logged.Related {α β : Type} (r : α → β → Prop) (x : Logged α) (y : Logged β) : Prop where
  value : r x.value y.value
  events : y.events = x.events

namespace Logged.Related

variable {α β γ δ : Type} {r : α → β → Prop} {s : γ → δ → Prop}

theorem pure {a : α} {b : β} (h : r a b) :
    Related r (Pure.pure a : Logged α) (Pure.pure b : Logged β) :=
  ⟨h, rfl⟩

theorem bind {x : Logged α} {y : Logged β} {f : α → Logged γ} {g : β → Logged δ}
    (h : Related r x y) (hf : ∀ a b, r a b → Related s (f a) (g b)) :
    Related s (x >>= f) (y >>= g) where
  value := (hf _ _ h.value).value
  events := by rw [events_bind, events_bind, h.events, (hf _ _ h.value).events]

/-- What is reported first on both sides does not matter. -/
theorem report_bind {x : Logged α} {y : Logged β} (event : Event) (h : Related r x y) :
    Related r (do report event; x) (do report event; y) where
  value := h.value
  events := congrArg ([event] ++ ·) h.events

theorem eq {x y : Logged α} (h : Related Eq x y) : y = x := by
  obtain ⟨value, events⟩ := x
  obtain ⟨value', events'⟩ := y
  obtain rfl : value = value' := h.value
  obtain rfl : events' = events := h.events
  rfl

end Logged.Related

/-! ## Equality of what contains filters -/

theorem forall₂_of_beq {α : Type} [BEq α] {as bs : List α} (h : (as == bs) = true) :
    List.Forall₂ (fun a b => (a == b) = true) as bs := by
  induction as generalizing bs with
  | nil =>
    cases bs with
    | nil => exact .nil
    | cons b bs => cases h
  | cons a as ih =>
    cases bs with
    | nil => cases h
    | cons b bs =>
      rw [List.cons_beq_cons, Bool.and_eq_true_iff] at h
      exact .cons h.1 (ih h.2)

theorem Filter.map_evaluate_congr {build build' : BuildNumber} {filter filter' : Option Filter}
    (hbuild : (build == build') = true) (h : (filter == filter') = true) :
    filter'.map (evaluate build') = filter.map (evaluate build) := by
  cases filter <;> cases filter'
  · rfl
  · cases h
  · cases h
  · exact congrArg some (evaluate_congr hbuild h).symm

theorem Filter.evaluate?_congr {build build' : BuildNumber} {filter filter' : Option Filter}
    (h : filter'.map (evaluate build') = filter.map (evaluate build)) :
    evaluate? build' filter' = evaluate? build filter := by
  have hgetD (build : BuildNumber) (filter : Option Filter) :
      evaluate? build filter = (filter.map (evaluate build)).getD .holds := by
    cases filter <;> rfl
  rw [hgetD, hgetD, h]

deriving instance ReflBEq for Package

deriving instance ReflBEq for Product

theorem Context.beq_iff {ctx ctx' : Context} :
    (ctx == ctx') = true ↔
      (ctx.build == ctx'.build) = true ∧ ctx.os = ctx'.os ∧ ctx.arch = ctx'.arch := by
  change instBEqContext.beq _ _ = true ↔ _
  simp only [instBEqContext.beq, Bool.and_eq_true, beq_iff_eq]

/-! ## Packages -/

namespace Package

/-- Two packages are the same but for filters that have the same verdict, each
on a build of its own. -/
structure Interchangeable (build build' : BuildNumber) (package package' : Package) : Prop where
  others : package' = { package with filter := package'.filter }
  filter : package'.filter.map (Filter.evaluate build') =
    package.filter.map (Filter.evaluate build)

theorem interchangeable_of_beq {build build' : BuildNumber} {package package' : Package}
    (hbuild : (build == build') = true) (h : (package == package') = true) :
    package.Interchangeable build build' package' := by
  obtain ⟨os, arch, packageType, filter, url, sha256, archiveSize, archiveFileName, unpackFolder,
    unpackedSize, installFolderName, javaHomePath⟩ := package
  obtain ⟨os', arch', packageType', filter', url', sha256', archiveSize', archiveFileName',
    unpackFolder', unpackedSize', installFolderName', javaHomePath'⟩ := package'
  have h : instBEqPackage.beq _ _ = true := h
  simp only [instBEqPackage.beq, Bool.and_eq_true, beq_iff_eq] at h
  obtain ⟨rfl, rfl, rfl, hfilter, rfl, rfl, rfl, rfl, rfl, rfl, rfl, rfl⟩ := h
  exact ⟨rfl, Filter.map_evaluate_congr hbuild hfilter⟩

end Package

/-! ## Products -/

namespace Product

/-- Two products are the same but for filters that have the same verdict, each
on a build of its own, and for packages of which this is true in turn. -/
structure Interchangeable (build build' : BuildNumber) (p p' : Product) : Prop where
  others : p' = { p with
    isDefault := p'.isDefault, filter := p'.filter, packages := p'.packages }
  isDefault : p'.isDefault.map (Filter.evaluate build') = p.isDefault.map (Filter.evaluate build)
  filter : p'.filter.map (Filter.evaluate build') = p.filter.map (Filter.evaluate build)
  packages : List.Forall₂ (Package.Interchangeable build build') p.packages p'.packages

theorem interchangeable_of_beq {build build' : BuildNumber} {p p' : Product}
    (hbuild : (build == build') = true) (h : (p == p') = true) :
    p.Interchangeable build build' p' := by
  obtain ⟨vendor, product, flavour, isDefault, filter, jdkVersionMajor, jdkVersion,
    jdkVendorVersion, vendorVersion, suggestedSdkName, sharedIndexAliases, packages⟩ := p
  obtain ⟨vendor', product', flavour', isDefault', filter', jdkVersionMajor', jdkVersion',
    jdkVendorVersion', vendorVersion', suggestedSdkName', sharedIndexAliases', packages'⟩ := p'
  have h : instBEqProduct.beq _ _ = true := h
  simp only [instBEqProduct.beq, Bool.and_eq_true] at h
  obtain ⟨hvendor, hproduct, hflavour, hdefault, hfilter, hmajor, hversion, hvendorVersion,
    hvendorVersion', hsdk, haliases, hpackages⟩ := h
  simp only [beq_iff_eq] at hvendor hproduct hflavour hmajor hversion hvendorVersion
  simp only [beq_iff_eq] at hvendorVersion' hsdk haliases
  subst hvendor hproduct hflavour hmajor hversion hvendorVersion hvendorVersion' hsdk haliases
  exact {
    others := rfl
    isDefault := Filter.map_evaluate_congr hbuild hdefault
    filter := Filter.map_evaluate_congr hbuild hfilter
    packages := (forall₂_of_beq hpackages).imp fun _ _ h =>
      Package.interchangeable_of_beq hbuild h }

/-! ## Selections -/

theorem isDefaultFor_congr {build build' : BuildNumber} {p p' : Product}
    (h : p'.isDefault.map (Filter.evaluate build') = p.isDefault.map (Filter.evaluate build)) :
    p'.isDefaultFor build' = p.isDefaultFor build := by
  have hsome (build : BuildNumber) (p : Product) :
      p.isDefaultFor build = decide (p.isDefault.map (Filter.evaluate build) = some .holds) := by
    rw [isDefaultFor]
    cases p.isDefault <;> simp
  rw [hsome, hsome, h]

/-- The same package is found among packages that are interchangeable. -/
theorem related_firstFitting {ctx ctx' : Context} {packages packages' : List Package}
    (hos : ctx'.os = ctx.os) (harch : ctx'.arch = ctx.arch)
    (h : List.Forall₂ (Package.Interchangeable ctx.build ctx'.build) packages packages') :
    Logged.Related (Option.Rel (Package.Interchangeable ctx.build ctx'.build))
      (firstFitting ctx packages) (firstFitting ctx' packages') := by
  induction h with
  | nil => exact .pure .none
  | @cons package package' packages packages' hpackage _ ih =>
    have hos' : package'.os = package.os := by rw [hpackage.others]
    have harch' : package'.arch = package.arch := by rw [hpackage.others]
    have hurl : package'.url = package.url := by rw [hpackage.others]
    rw [firstFitting, firstFitting, hos, harch, hos', harch', hurl,
      Filter.evaluate?_congr hpackage.filter]
    split
    · split
      · exact .pure (.some hpackage)
      · exact .report_bind _ ih
    · exact ih

/-- Interchangeable products come to the same selection in contexts for the
same platform, and the same is reported on the way. -/
theorem select_congr {ctx ctx' : Context} {p p' : Product} (hos : ctx'.os = ctx.os)
    (harch : ctx'.arch = ctx.arch) (h : p.Interchangeable ctx.build ctx'.build p') :
    p'.select ctx' = p.select ctx := by
  apply Logged.Related.eq
  rw [select, select, Filter.evaluate?_congr h.filter]
  split
  · refine (related_firstFitting hos harch h.packages).bind fun package? package?' hpackage => ?_
    cases hpackage with
    | none => exact .pure rfl
    | some hpackage =>
      refine .pure (congrArg Selection.kept ?_)
      rw [h.others, hpackage.others, ← isDefaultFor_congr h.isDefault]
      rfl
  · exact .pure rfl

/-- Equal products come to the same selection in equal contexts. -/
theorem select_eq_of_beq {ctx ctx' : Context} {p p' : Product} (hp : (p == p') = true)
    (hctx : (ctx == ctx') = true) : p'.select ctx' = p.select ctx := by
  obtain ⟨hbuild, hos, harch⟩ := Context.beq_iff.mp hctx
  exact select_congr hos.symm harch.symm (interchangeable_of_beq hbuild hp)

end Product

end JdkCatalog
