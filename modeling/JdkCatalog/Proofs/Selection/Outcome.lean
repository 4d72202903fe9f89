import JdkCatalog.Proofs.Entry
import JdkCatalog.Selection

/-!
# What becomes of a product

A product of a feed is read, its packages that cannot be read are dropped, and
of the others the first one that fits is taken.  This module says what becomes
of the product in terms of the value that was written in the feed, before
anything was dropped.

* `Suits` says of an element of the array of packages that it can be used in a
  context.  `find?_read?` relates the first package that fits, among those that
  were read, to the first element that suits, among all.
* `Item.StatedBy` says part by part how an item is made of a product and of one
  element of its packages.
* `Outcome` lists what can become of a product, with all that has to hold of
  the value.  `outcome_ofJson` says that one of these is what the selection
  comes to, and `ofJson_kept_or_skipped` reads off when a product is kept, with
  which item, and for which reason it is skipped otherwise.
-/

namespace JdkCatalog

namespace Package

/-! ## Packages that fit -/

/-- A package is for a platform, and its filter holds. -/
def Fits (ctx : Context) (package : Package) : Prop :=
  package.os = ctx.os ∧ package.arch = ctx.arch ∧
    Filter.evaluate? ctx.build package.filter = .holds

instance (ctx : Context) (package : Package) : Decidable (package.Fits ctx) :=
  inferInstanceAs (Decidable (_ ∧ _ ∧ _))

end Package

namespace Product

theorem value_firstFitting (ctx : Context) (packages : List Package) :
    (firstFitting ctx packages).value = packages.find? fun package => package.Fits ctx := by
  induction packages with
  | nil => rfl
  | cons package packages ih =>
    rw [firstFitting, List.find?_cons]
    by_cases hplatform : package.os = ctx.os ∧ package.arch = ctx.arch
    · rw [if_pos hplatform]
      cases hfilter : Filter.evaluate? ctx.build package.filter with
      | holds =>
        have hfits : package.Fits ctx := ⟨hplatform.1, hplatform.2, hfilter⟩
        rw [decide_eq_true hfits]
        rfl
      | fails | unknown =>
        have hfits : ¬ package.Fits ctx := by simp [Package.Fits, hfilter]
        rw [decide_eq_false hfits]
        exact ih
    · have hfits : ¬ package.Fits ctx := fun h => hplatform ⟨h.1, h.2.1⟩
      rw [if_neg hplatform, decide_eq_false hfits]
      exact ih

end Product

namespace Selection

/-- The verdict of the filter that a value states; without one it holds. -/
def filterVerdict (ctx : Context) (raw : Json) : Verdict :=
  Filter.evaluate? ctx.build ((raw.part? "filter").map Filter.ofJson)

theorem evaluate?_eq_filterVerdict {ctx : Context} {raw : Json} {filter : Option Filter}
    (hfilter : filter = (raw.part? "filter").map Filter.ofJson) :
    Filter.evaluate? ctx.build filter = filterVerdict ctx raw := by
  rw [filterVerdict, hfilter]

/-- An element of an array of packages can be read, is for the platform of a
context, and has a filter that holds. -/
structure Suits (ctx : Context) (raw : Json) : Prop where
  readable : ∃ package, Package.read raw = .ok package
  os : Os.stated? raw = some ctx.os
  arch : Arch.stated? raw = some ctx.arch
  filter : filterVerdict ctx raw = .holds

/-- A package fits if the value that states it suits. -/
theorem fits_iff_suits {ctx : Context} {raw : Json} {package : Package}
    (hread : Package.read raw = .ok package) : package.Fits ctx ↔ Suits ctx raw := by
  have hstated := Package.read_eq_ok_iff.mp hread
  have hfilter : Filter.evaluate? ctx.build package.filter = filterVerdict ctx raw :=
    evaluate?_eq_filterVerdict hstated.filter
  constructor
  · intro hfits
    rcases hfits with ⟨hos, harch, hholds⟩
    exact {
      readable := ⟨package, hread⟩
      os := hos ▸ hstated.os
      arch := harch ▸ hstated.arch
      filter := hfilter.symm.trans hholds }
  · intro h
    have hos := hstated.os.symm.trans h.os
    have harch := hstated.arch.symm.trans h.arch
    exact ⟨Option.some.inj hos, Option.some.inj harch, hfilter.trans h.filter⟩

theorem any_read?_iff_suits {ctx : Context} {raw : Json} :
    ((Package.read? raw).any fun package => package.Fits ctx) = true ↔ Suits ctx raw := by
  rw [Option.any_eq_true]
  constructor
  · intro hany
    rcases hany with ⟨package, hread, hfits⟩
    exact (fits_iff_suits (Package.read?_eq_some_iff.mp hread)).mp (of_decide_eq_true hfits)
  · intro h
    obtain ⟨package, hread⟩ := h.readable
    exact ⟨package, Package.read?_eq_some_iff.mpr hread,
      decide_eq_true ((fits_iff_suits hread).mpr h)⟩

/-- The first package that fits is that of the first element that suits:
dropping the elements that cannot be read does not change which it is. -/
theorem find?_read?_eq_some_iff {ctx : Context} {elements : List Json} {package : Package} :
    ((elements.filterMap Package.read?).find? fun package => package.Fits ctx) = some package ↔
      ∃ before chosen after, elements = before ++ chosen :: after ∧
        Package.read chosen = .ok package ∧ Suits ctx chosen ∧
        ∀ earlier ∈ before, ¬ Suits ctx earlier := by
  rw [List.find?_filterMap, Option.bind_eq_some_iff]
  constructor
  · intro hfound
    rcases hfound with ⟨chosen, hfind, hread⟩
    obtain ⟨hchosen, before, after, helements, hbefore⟩ := List.find?_eq_some_iff_append.mp hfind
    refine ⟨before, chosen, after, helements, Package.read?_eq_some_iff.mp hread,
      any_read?_iff_suits.mp hchosen, fun earlier hmem hsuits => ?_⟩
    have hnot := hbefore earlier hmem
    rw [any_read?_iff_suits.mpr hsuits] at hnot
    cases hnot
  · intro hfirst
    rcases hfirst with ⟨before, chosen, after, helements, hread, hchosen, hbefore⟩
    refine ⟨chosen, ?_, Package.read?_eq_some_iff.mpr hread⟩
    refine List.find?_eq_some_iff_append.mpr
      ⟨any_read?_iff_suits.mpr hchosen, before, after, helements, fun earlier hmem => ?_⟩
    rw [Bool.not_eq_true', ← Bool.not_eq_true, any_read?_iff_suits]
    exact hbefore earlier hmem

theorem find?_read?_eq_none_iff {ctx : Context} {elements : List Json} :
    ((elements.filterMap Package.read?).find? fun package => package.Fits ctx) = none ↔
      ∀ element ∈ elements, ¬ Suits ctx element := by
  rw [List.find?_eq_none]
  constructor
  · intro hnone element hmem hsuits
    obtain ⟨package, hread⟩ := hsuits.readable
    have hpackage := List.mem_filterMap.mpr ⟨element, hmem, Package.read?_eq_some_iff.mpr hread⟩
    exact hnone package hpackage (decide_eq_true ((fits_iff_suits hread).mpr hsuits))
  · intro hnone package hpackage hfits
    obtain ⟨element, hmem, hread?⟩ := List.mem_filterMap.mp hpackage
    have hread := Package.read?_eq_some_iff.mp hread?
    exact hnone element hmem ((fits_iff_suits hread).mp (of_decide_eq_true hfits))

end Selection

/-! ## Items -/

/-- An item is what a product and one element of its packages say, part by
part; the platform is that of the context. -/
structure Item.StatedBy (item : Item) (ctx : Context) (raw chosen : Json) : Prop where
  vendor : raw.part? "vendor" = some (.string item.name.vendor)
  product : raw.part? "product" = item.name.product.map .string
  flavour : raw.part? "flavour" = item.name.flavour.map .string
  /-- An item is a default choice only if the product says so. -/
  isDefault : item.isDefault = true ↔
    ∃ value, raw.part? "default" = some value ∧
      (Filter.ofJson value).evaluate ctx.build = .holds
  jdkMajorVersion : raw.part? "jdk_version_major" =
    some (.number (.natural item.jdkMajorVersion.toUInt64))
  jdkVersion : raw.part? "jdk_version" = some (.string item.jdkVersion)
  jdkVendorVersion : raw.part? "jdk_vendor_version" = item.jdkVendorVersion.map .string
  vendorVersion : raw.part? "vendor_version" = item.vendorVersion.map .string
  suggestedSdkName : raw.part? "suggested_sdk_name" = some (.string item.suggestedSdkName)
  sharedIndexAliases : (raw.part? "shared_index_aliases").getD (.array []) =
    .array (item.sharedIndexAliases.map .string)
  os : item.os = ctx.os
  arch : item.arch = ctx.arch
  packageType : chosen.part? "package_type" = some (.string item.packageType.tag)
  url : chosen.part? "url" = some (.string item.url)
  sha256 : chosen.part? "sha256" = some (.string item.sha256)
  archiveSize : chosen.part? "archive_size" = some (.number (.natural item.archiveSize))
  archiveFileName : chosen.part? "archive_file_name" = some (.string item.archiveFileName)
  unpackFolder : (chosen.part? "unpack_prefix_filter").getD (.string "") =
    .string item.unpackFolder
  unpackedSize : chosen.part? "unpacked_size" = some (.number (.natural item.unpackedSize))
  installFolderName : chosen.part? "install_folder_name" = some (.string item.installFolderName)
  javaHomePath : (chosen.part? "package_to_java_home_prefix").getD (.string "") =
    .string item.javaHomePath

theorem Product.isDefaultFor_iff {p : Product} {raw : Json} (hstated : p.StatedBy raw)
    (build : BuildNumber) :
    p.isDefaultFor build = true ↔
      ∃ value, raw.part? "default" = some value ∧
        (Filter.ofJson value).evaluate build = .holds := by
  rw [isDefaultFor, hstated.isDefault]
  cases raw.part? "default" with
  | none => simp
  | some value => simp

theorem Item.statedBy_ofPackage {ctx : Context} {raw chosen : Json} {p : Product}
    {package : Package} (hproduct : p.StatedBy raw) (hpackage : package.StatedBy chosen)
    (hfits : package.Fits ctx) :
    (Item.ofPackage p package (p.isDefaultFor ctx.build)).StatedBy ctx raw chosen where
  vendor := hproduct.vendor
  product := hproduct.product
  flavour := hproduct.flavour
  isDefault := Product.isDefaultFor_iff hproduct ctx.build
  jdkMajorVersion := hproduct.jdkVersionMajor
  jdkVersion := hproduct.jdkVersion
  jdkVendorVersion := hproduct.jdkVendorVersion
  vendorVersion := hproduct.vendorVersion
  suggestedSdkName := hproduct.suggestedSdkName
  sharedIndexAliases := hproduct.sharedIndexAliases
  os := hfits.1
  arch := hfits.2.1
  packageType := hpackage.packageType
  url := hpackage.url
  sha256 := hpackage.sha256
  archiveSize := hpackage.archiveSize
  archiveFileName := hpackage.archiveFileName
  unpackFolder := hpackage.unpackFolder
  unpackedSize := hpackage.unpackedSize
  installFolderName := hpackage.installFolderName
  javaHomePath := hpackage.javaHomePath

namespace Selection

/-! ## Outcomes -/

/-- What can become of a product that was written in a feed. -/
inductive Outcome (ctx : Context) (raw : Json) : Selection → Prop where
  /-- A field of the product is wrong. -/
  | unreadable {reason : Rejection} (hread : (Product.read raw).value = .error reason) :
      Outcome ctx raw (.skipped reason)
  /-- The filter of the product does not hold. -/
  | filtered {p : Product} (hread : (Product.read raw).value = .ok p)
      (hfilter : filterVerdict ctx raw ≠ .holds) :
      Outcome ctx raw (.skipped (.filtered (filterVerdict ctx raw)))
  /-- No element of the packages suits. -/
  | noPackage {p : Product} {elements : List Json} (hread : (Product.read raw).value = .ok p)
      (hfilter : filterVerdict ctx raw = .holds)
      (hpackages : raw.part? "packages" = some (.array elements))
      (hnone : ∀ element ∈ elements, ¬ Suits ctx element) :
      Outcome ctx raw (.skipped .noPackage)
  /-- The first element of the packages that suits makes an item. -/
  | kept {p : Product} {before after : List Json} {chosen : Json} {item : Item}
      (hread : (Product.read raw).value = .ok p) (hfilter : filterVerdict ctx raw = .holds)
      (hpackages : raw.part? "packages" = some (.array (before ++ chosen :: after)))
      (hbefore : ∀ earlier ∈ before, ¬ Suits ctx earlier) (hchosen : Suits ctx chosen)
      (hitem : item.StatedBy ctx raw chosen) :
      Outcome ctx raw (.kept item)

theorem outcome_select {ctx : Context} {raw : Json} {p : Product}
    (hread : (Product.read raw).value = .ok p) : Outcome ctx raw (p.select ctx).value := by
  have hproduct := Product.read_eq_ok_iff.mp hread
  rw [Product.select, evaluate?_eq_filterVerdict hproduct.filter]
  obtain ⟨elements, hpackages, hread?⟩ := hproduct.packages
  split
  · rename_i hholds
    rw [Logged.value_bind, Product.value_firstFitting, hread?]
    cases hfind : (elements.filterMap Package.read?).find? fun package => package.Fits ctx with
    | none => exact .noPackage hread hholds hpackages (find?_read?_eq_none_iff.mp hfind)
    | some package =>
      obtain ⟨before, chosen, after, rfl, hchosenRead, hchosen, hbefore⟩ :=
        find?_read?_eq_some_iff.mp hfind
      have hitem := Item.statedBy_ofPackage hproduct (Package.read_eq_ok_iff.mp hchosenRead)
        ((fits_iff_suits hchosenRead).mpr hchosen)
      exact .kept hread hholds hpackages hbefore hchosen hitem
  · rename_i hnot
    exact .filtered hread hnot

/-- What a selection comes to is one of the outcomes. -/
theorem outcome_ofJson (ctx : Context) (raw : Json) :
    Outcome ctx raw (Selection.ofJson raw ctx).value := by
  rw [ofJson, Logged.value_bind]
  cases hread : (Product.read raw).value with
  | error reason => exact .unreadable hread
  | ok p => exact outcome_select hread

/-- A product that can be read has no field that is wrong. -/
theorem ne_error_of_read {raw : Json} {p : Product} {reason : Rejection}
    (hread : (Product.read raw).value = .ok p) : (Product.read raw).value ≠ .error reason := by
  intro herror
  rw [hread] at herror
  cases herror

/-- A product that can be read, whose filter holds and of whose packages an
element suits, is kept. -/
theorem Outcome.exists_eq_kept {ctx : Context} {raw : Json} {selection : Selection} {p : Product}
    {elements : List Json} {element : Json} (h : Outcome ctx raw selection)
    (hread : (Product.read raw).value = .ok p) (hfilter : filterVerdict ctx raw = .holds)
    (hpackages : raw.part? "packages" = some (.array elements)) (hmem : element ∈ elements)
    (hsuits : Suits ctx element) : ∃ item, selection = .kept item := by
  cases h with
  | unreadable herror => exact absurd herror (ne_error_of_read hread)
  | filtered _ hnot => exact absurd hfilter hnot
  | noPackage _ _ hpackages' hnone =>
    rw [hpackages] at hpackages'
    cases hpackages'
    exact absurd hsuits (hnone element hmem)
  | kept => exact ⟨_, rfl⟩

/-- A product is skipped for a reason if and only if that reason is the first
to hold. -/
theorem Outcome.eq_skipped_iff {ctx : Context} {raw : Json} {selection : Selection}
    (h : Outcome ctx raw selection) (reason : Rejection) :
    selection = .skipped reason ↔
      (Product.read raw).value = .error reason ∨
      (∃ p, (Product.read raw).value = .ok p) ∧
        ((filterVerdict ctx raw ≠ .holds ∧ reason = .filtered (filterVerdict ctx raw)) ∨
          (filterVerdict ctx raw = .holds ∧ reason = .noPackage ∧
            ∀ elements, raw.part? "packages" = some (.array elements) →
              ∀ element ∈ elements, ¬ Suits ctx element)) := by
  constructor
  · intro hskipped
    subst hskipped
    cases h with
    | unreadable hread => exact .inl hread
    | filtered hread hfilter => exact .inr ⟨⟨_, hread⟩, .inl ⟨hfilter, rfl⟩⟩
    | noPackage hread hfilter hpackages hnone =>
      refine .inr ⟨⟨_, hread⟩, .inr ⟨hfilter, rfl, fun elements helements => ?_⟩⟩
      rw [hpackages] at helements
      cases helements
      exact hnone
  · intro hreason
    rcases hreason with herror | ⟨⟨p, hread⟩, ⟨hnot, rfl⟩ | ⟨hholds, rfl, hnone⟩⟩
    · cases h with
      | unreadable hread =>
        rw [herror] at hread
        cases hread
        rfl
      | filtered hread | noPackage hread | kept hread =>
        exact absurd herror (ne_error_of_read hread)
    · cases h with
      | unreadable herror => exact absurd herror (ne_error_of_read hread)
      | filtered => rfl
      | noPackage _ hholds | kept _ hholds => exact absurd hholds hnot
    · cases h with
      | unreadable herror => exact absurd herror (ne_error_of_read hread)
      | filtered _ hnot => exact absurd hholds hnot
      | noPackage => rfl
      | kept _ _ hpackages _ hchosen =>
        exact absurd hchosen (hnone _ hpackages _ List.mem_append_cons_self)

/-- A product is kept if it can be read, its filter holds and an element of its
packages suits.  The item is then that of the first such element in the order
of the feed.  Every other product is skipped, for the reason that is found
first: a field that is wrong, a filter that does not hold, no package. -/
theorem ofJson_kept_or_skipped (ctx : Context) (raw : Json) :
    ((∃ item, (Selection.ofJson raw ctx).value = .kept item) ↔
      (∃ p, (Product.read raw).value = .ok p) ∧ filterVerdict ctx raw = .holds ∧
        ∃ elements, raw.part? "packages" = some (.array elements) ∧
          ∃ element ∈ elements, Suits ctx element) ∧
    (∀ item, (Selection.ofJson raw ctx).value = .kept item →
      ∃ before chosen after, raw.part? "packages" = some (.array (before ++ chosen :: after)) ∧
        Suits ctx chosen ∧ (∀ earlier ∈ before, ¬ Suits ctx earlier) ∧
        item.StatedBy ctx raw chosen) ∧
    (∀ reason, (Selection.ofJson raw ctx).value = .skipped reason ↔
      (Product.read raw).value = .error reason ∨
      (∃ p, (Product.read raw).value = .ok p) ∧
        ((filterVerdict ctx raw ≠ .holds ∧ reason = .filtered (filterVerdict ctx raw)) ∨
          (filterVerdict ctx raw = .holds ∧ reason = .noPackage ∧
            ∀ elements, raw.part? "packages" = some (.array elements) →
              ∀ element ∈ elements, ¬ Suits ctx element))) := by
  have houtcome := outcome_ofJson ctx raw
  refine ⟨⟨?_, ?_⟩, ?_, houtcome.eq_skipped_iff⟩
  · intro hitem
    rcases hitem with ⟨item, hkept⟩
    rw [hkept] at houtcome
    cases houtcome with
    | kept hread hfilter hpackages _ hchosen =>
      exact ⟨⟨_, hread⟩, hfilter, _, hpackages, _, List.mem_append_cons_self, hchosen⟩
  · intro hconditions
    rcases hconditions with
      ⟨⟨p, hread⟩, hfilter, elements, hpackages, element, hmem, hsuits⟩
    exact houtcome.exists_eq_kept hread hfilter hpackages hmem hsuits
  · intro item hkept
    rw [hkept] at houtcome
    cases houtcome with
    | kept _ _ hpackages hbefore hchosen hitem =>
      exact ⟨_, _, _, hpackages, hchosen, hbefore, hitem⟩

end Selection

end JdkCatalog
