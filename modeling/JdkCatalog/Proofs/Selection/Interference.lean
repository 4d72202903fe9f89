import JdkCatalog.Proofs.Selection.Outcome
import Mathlib.Logic.Relation

/-!
# What has no influence on a selection

A feed says more than what is read from it.  This module says what may be
changed in a product, as it was written, without changing what becomes of it.

* `Product.readKeys` and `Package.readKeys` are the keys that are read.
  `Product.StatedBy.of_agreeOn` and `Package.read?_eq_of_agreeOn` say that the
  other members do not matter.
* `pick?` is what one element of the packages contributes to the choice of a
  package, and the choice is the first contribution.  From this
  `PackagesEdit.findSome?_pick?_eq` says which elements do not matter.
* `ProductEdit` is one change of a product without influence.
  `ofJson_eq_of_edits` is about any number of them, and
  `ofJson_eq_withDefault` about the condition for a default choice.
-/

namespace JdkCatalog

/-! ## Members that are not read -/

/-- Two values have the same members under certain keys. -/
def Json.AgreeOn (keys : List String) (raw raw' : Json) : Prop :=
  ∀ key ∈ keys, raw.member? key = raw'.member? key

theorem Json.AgreeOn.part?_eq {keys : List String} {raw raw' : Json} {key : String}
    (h : raw.AgreeOn keys raw') (hkey : key ∈ keys) : raw'.part? key = raw.part? key := by
  rw [part?, part?, h key hkey]

theorem Json.AgreeOn.symm {keys : List String} {raw raw' : Json} (h : raw.AgreeOn keys raw') :
    raw'.AgreeOn keys raw :=
  fun key hkey => (h key hkey).symm

theorem Json.AgreeOn.mono {keys keys' : List String} {raw raw' : Json}
    (h : raw.AgreeOn keys raw') (hkeys : keys' ⊆ keys) : raw.AgreeOn keys' raw' :=
  fun key hkey => h key (hkeys hkey)

namespace Package

/-- The keys under which something is read from a package. -/
def readKeys : List String :=
  ["os", "arch", "package_type", "filter", "url", "sha256", "archive_size", "archive_file_name",
    "unpack_prefix_filter", "unpacked_size", "install_folder_name",
    "package_to_java_home_prefix"]

theorem StatedBy.of_agreeOn {package : Package} {raw raw' : Json} (h : package.StatedBy raw)
    (hagree : raw.AgreeOn readKeys raw') : package.StatedBy raw' where
  os := by
    rw [Os.stated?, hagree.part?_eq (by decide)]
    exact h.os
  arch := by
    rw [Arch.stated?, hagree.part?_eq (by decide)]
    exact h.arch
  packageType := by rw [hagree.part?_eq (by decide), h.packageType]
  filter := by rw [hagree.part?_eq (by decide), h.filter]
  url := by rw [hagree.part?_eq (by decide), h.url]
  sha256 := by rw [hagree.part?_eq (by decide), h.sha256]
  archiveSize := by rw [hagree.part?_eq (by decide), h.archiveSize]
  archiveFileName := by rw [hagree.part?_eq (by decide), h.archiveFileName]
  unpackFolder := by rw [hagree.part?_eq (by decide), h.unpackFolder]
  unpackedSize := by rw [hagree.part?_eq (by decide), h.unpackedSize]
  installFolderName := by rw [hagree.part?_eq (by decide), h.installFolderName]
  javaHomePath := by rw [hagree.part?_eq (by decide), h.javaHomePath]

/-- Whether a package can be read, and what it is, depends on no other
members. -/
theorem read?_eq_of_agreeOn {raw raw' : Json} (hagree : raw.AgreeOn readKeys raw') :
    read? raw = read? raw' := by
  apply Option.ext
  intro package
  rw [read?_eq_some_iff, read?_eq_some_iff, read_eq_ok_iff, read_eq_ok_iff]
  exact ⟨fun h => h.of_agreeOn hagree, fun h => h.of_agreeOn hagree.symm⟩

end Package

namespace Product

/-- The keys under which something is read from a product. -/
def readKeys : List String :=
  ["vendor", "product", "flavour", "default", "filter", "jdk_version_major", "jdk_version",
    "jdk_vendor_version", "vendor_version", "suggested_sdk_name", "shared_index_aliases",
    "packages"]

/-- A value with the same members as one that states a product, but for the
condition for a default choice and the packages, states a product that differs
in these two. -/
theorem StatedBy.of_agreeOn {p : Product} {raw raw' : Json} {elements : List Json}
    (h : p.StatedBy raw)
    (hagree : raw.AgreeOn ((readKeys.erase "default").erase "packages") raw')
    (hpackages : raw'.part? "packages" = some (.array elements)) :
    StatedBy
      { p with
        isDefault := (raw'.part? "default").map Filter.ofJson
        packages := elements.filterMap Package.read? } raw' where
  vendor := by rw [hagree.part?_eq (by decide), h.vendor]
  product := by rw [hagree.part?_eq (by decide), h.product]
  flavour := by rw [hagree.part?_eq (by decide), h.flavour]
  isDefault := rfl
  filter := h.filter.trans (by rw [hagree.part?_eq (by decide)])
  jdkVersionMajor := by rw [hagree.part?_eq (by decide), h.jdkVersionMajor]
  jdkVersion := by rw [hagree.part?_eq (by decide), h.jdkVersion]
  jdkVendorVersion := by rw [hagree.part?_eq (by decide), h.jdkVendorVersion]
  vendorVersion := by rw [hagree.part?_eq (by decide), h.vendorVersion]
  suggestedSdkName := by rw [hagree.part?_eq (by decide), h.suggestedSdkName]
  sharedIndexAliases := by rw [hagree.part?_eq (by decide), h.sharedIndexAliases]
  packages := ⟨elements, hpackages, rfl⟩

end Product

namespace Selection

/-! ## Elements of the packages that do not matter -/

/-- The package of an element of the packages, if it can be read and fits. -/
def pick? (ctx : Context) (raw : Json) : Option Package :=
  (Package.read? raw).filter fun package => package.Fits ctx

theorem pick?_eq_none_iff {ctx : Context} {raw : Json} :
    pick? ctx raw = none ↔ ¬ Suits ctx raw := by
  rw [← any_read?_iff_suits, pick?]
  cases Package.read? raw <;> simp [Option.filter]

/-- The package that is chosen is the first that an element contributes. -/
theorem find?_read?_eq_findSome?_pick? (ctx : Context) (elements : List Json) :
    ((elements.filterMap Package.read?).find? fun package => package.Fits ctx) =
      elements.findSome? (pick? ctx) := by
  induction elements with
  | nil => rfl
  | cons element elements ih =>
    rw [List.filterMap_cons, List.findSome?_cons, pick?]
    cases Package.read? element with
    | none => exact ih
    | some package =>
      rw [List.find?_cons, Option.filter_some]
      by_cases hfits : package.Fits ctx
      · simp [hfits]
      · simpa [hfits] using ih

/-- Elements that do not suit contribute nothing, wherever they stand. -/
theorem findSome?_pick?_insert {ctx : Context} {elements : List Json} (before after : List Json)
    (helements : ∀ element ∈ elements, ¬ Suits ctx element) :
    (before ++ elements ++ after).findSome? (pick? ctx) =
      (before ++ after).findSome? (pick? ctx) := by
  have hnone : elements.findSome? (pick? ctx) = none := by
    rw [List.findSome?_eq_none_iff]
    exact fun element hmem => pick?_eq_none_iff.mpr (helements element hmem)
  rw [List.append_assoc, List.findSome?_append, List.findSome?_append, List.findSome?_append,
    hnone, Option.none_or]

/-- A change of an array of packages that does not change what is chosen. -/
inductive PackagesEdit (ctx : Context) : List Json → List Json → Prop where
  /-- Of one element, members that are not read are added, removed or changed. -/
  | members {element element' : Json} (before after : List Json)
      (helement : element.AgreeOn Package.readKeys element') :
      PackagesEdit ctx (before ++ element :: after) (before ++ element' :: after)
  /-- Elements that do not suit are inserted. -/
  | insert {elements : List Json} (before after : List Json)
      (helements : ∀ element ∈ elements, ¬ Suits ctx element) :
      PackagesEdit ctx (before ++ after) (before ++ elements ++ after)
  /-- Elements that do not suit are deleted. -/
  | delete {elements : List Json} (before after : List Json)
      (helements : ∀ element ∈ elements, ¬ Suits ctx element) :
      PackagesEdit ctx (before ++ elements ++ after) (before ++ after)
  /-- After an element that suits, everything else is replaced. -/
  | after {chosen : Json} (before after after' : List Json) (hchosen : Suits ctx chosen) :
      PackagesEdit ctx (before ++ chosen :: after) (before ++ chosen :: after')

theorem PackagesEdit.findSome?_pick?_eq {ctx : Context} {elements elements' : List Json}
    (h : PackagesEdit ctx elements elements') :
    elements'.findSome? (pick? ctx) = elements.findSome? (pick? ctx) := by
  cases h with
  | members before after helement =>
    have hpick := Package.read?_eq_of_agreeOn helement
    rw [List.findSome?_append, List.findSome?_append, List.findSome?_cons, List.findSome?_cons,
      pick?, pick?, hpick]
  | insert before after helements => exact findSome?_pick?_insert before after helements
  | delete before after helements => exact (findSome?_pick?_insert before after helements).symm
  | after before after after' hchosen =>
    rw [List.findSome?_append, List.findSome?_append, List.findSome?_cons, List.findSome?_cons]
    cases hpick : pick? _ _ with
    | none => exact absurd hchosen (pick?_eq_none_iff.mp hpick)
    | some package => rfl

/-! ## Selections from products that differ little -/

/-- A selection whose item is a default choice or not. -/
def withDefault (isDefault : Bool) : Selection → Selection
  | kept item => kept { item with isDefault }
  | skipped reason => skipped reason

theorem value_select (p : Product) (ctx : Context) :
    (p.select ctx).value =
      match Filter.evaluate? ctx.build p.filter with
      | .holds =>
        match p.packages.find? fun package => package.Fits ctx with
        | none => .skipped .noPackage
        | some package => .kept (Item.ofPackage p package (p.isDefaultFor ctx.build))
      | verdict => .skipped (.filtered verdict) := by
  rw [Product.select]
  cases Filter.evaluate? ctx.build p.filter with
  | holds =>
    rw [Logged.value_bind, Product.value_firstFitting]
    dsimp only
    cases p.packages.find? fun package => package.Fits ctx <;> rfl
  | fails | unknown => rfl

/-- Another condition for a default choice, and other packages of which the
same is chosen, change no more of what becomes of a product than whether it is
a default choice. -/
theorem value_select_update (p : Product) (ctx : Context) (isDefault : Option Filter)
    {packages : List Package}
    (hpick : (packages.find? fun package => package.Fits ctx) =
      p.packages.find? fun package => package.Fits ctx) :
    (Product.select { p with isDefault, packages } ctx).value =
      (p.select ctx).value.withDefault
        (Product.isDefaultFor { p with isDefault, packages } ctx.build) := by
  rw [value_select, value_select, hpick]
  cases Filter.evaluate? ctx.build p.filter with
  | holds => cases p.packages.find? fun package => package.Fits ctx <;> rfl
  | fails | unknown => rfl

/-- A product is a default choice or not as its own condition says. -/
theorem withDefault_isDefaultFor (p : Product) (ctx : Context) :
    (p.select ctx).value.withDefault (p.isDefaultFor ctx.build) = (p.select ctx).value :=
  (value_select_update p ctx p.isDefault rfl).symm

theorem ofJson_eq_select {raw : Json} {p : Product} (hread : (Product.read raw).value = .ok p)
    (ctx : Context) : (ofJson raw ctx).value = (p.select ctx).value := by
  rw [ofJson, Logged.value_bind, hread]

/-- A value with the same members as a product, but for the condition for a
default choice and for packages of which the same is chosen. -/
structure SameButDefault (ctx : Context) (raw raw' : Json) : Prop where
  members : raw.AgreeOn ((Product.readKeys.erase "default").erase "packages") raw'
  packages : ∃ elements elements', raw.part? "packages" = some (.array elements) ∧
    raw'.part? "packages" = some (.array elements') ∧
    elements'.findSome? (pick? ctx) = elements.findSome? (pick? ctx)

theorem SameButDefault.exists_read {ctx : Context} {raw raw' : Json} {p : Product}
    (h : SameButDefault ctx raw raw') (hread : (Product.read raw).value = .ok p) :
    ∃ p', (Product.read raw').value = .ok p' ∧
      p'.isDefault = (raw'.part? "default").map Filter.ofJson ∧
      (p'.select ctx).value = (p.select ctx).value.withDefault (p'.isDefaultFor ctx.build) := by
  have hstated := Product.read_eq_ok_iff.mp hread
  obtain ⟨elements, elements', helements, helements', hpick⟩ := h.packages
  obtain ⟨elements₀, helements₀, hpackages⟩ := hstated.packages
  rw [helements] at helements₀
  cases helements₀
  have hfind : ((elements'.filterMap Package.read?).find? fun package => package.Fits ctx) =
      p.packages.find? fun package => package.Fits ctx := by
    rw [hpackages, find?_read?_eq_findSome?_pick?, find?_read?_eq_findSome?_pick?, hpick]
  exact ⟨_, Product.read_eq_ok_iff.mpr (hstated.of_agreeOn h.members helements'), rfl,
    value_select_update p ctx _ hfind⟩

/-! ## Edits of products -/

/-- A change of a product, as it was written, that is not read. -/
inductive ProductEdit (ctx : Context) (raw raw' : Json) : Prop where
  /-- Members that are not read are added, removed or changed. -/
  | members (hmembers : raw.AgreeOn Product.readKeys raw')
  /-- The packages are changed, but not which is chosen. -/
  | packages {elements elements' : List Json}
      (hmembers : raw.AgreeOn (Product.readKeys.erase "packages") raw')
      (helements : raw.part? "packages" = some (.array elements))
      (helements' : raw'.part? "packages" = some (.array elements'))
      (hedit : PackagesEdit ctx elements elements')

theorem ProductEdit.part?_default_eq {ctx : Context} {raw raw' : Json}
    (h : ProductEdit ctx raw raw') : raw'.part? "default" = raw.part? "default" := by
  cases h with
  | members hmembers => exact hmembers.part?_eq (by decide)
  | packages hmembers => exact hmembers.part?_eq (by decide)

theorem ProductEdit.sameButDefault {ctx : Context} {raw raw' : Json} {p : Product}
    (h : ProductEdit ctx raw raw') (hread : (Product.read raw).value = .ok p) :
    SameButDefault ctx raw raw' := by
  cases h with
  | members hmembers =>
    obtain ⟨elements, helements, -⟩ := (Product.read_eq_ok_iff.mp hread).packages
    have helements' : raw'.part? "packages" = some (.array elements) := by
      rw [hmembers.part?_eq (by decide), helements]
    exact ⟨hmembers.mono (by decide), elements, elements, helements, helements', rfl⟩
  | packages hmembers helements helements' hedit =>
    exact ⟨hmembers.mono (by decide), _, _, helements, helements', hedit.findSome?_pick?_eq⟩

theorem ofJson_eq_of_edit {ctx : Context} {raw raw' : Json} {p : Product}
    (hedit : ProductEdit ctx raw raw') (hread : (Product.read raw).value = .ok p) :
    (∃ p', (Product.read raw').value = .ok p') ∧
      (ofJson raw' ctx).value = (ofJson raw ctx).value := by
  obtain ⟨p', hread', hdefault', hselect⟩ := (hedit.sameButDefault hread).exists_read hread
  have hdefault : p'.isDefaultFor ctx.build = p.isDefaultFor ctx.build := by
    rw [Product.isDefaultFor, Product.isDefaultFor, hdefault', hedit.part?_default_eq,
      (Product.read_eq_ok_iff.mp hread).isDefault]
  refine ⟨⟨p', hread'⟩, ?_⟩
  rw [ofJson_eq_select hread', ofJson_eq_select hread, hselect, hdefault,
    withDefault_isDefaultFor]

/-- The invariant of a sequence of edits is that the product can be read and
that the same becomes of it. -/
theorem ofJson_eq_of_edits {ctx : Context} {raw raw' : Json}
    (hedits : Relation.ReflTransGen (ProductEdit ctx) raw raw')
    (hread : ∃ p, (Product.read raw).value = .ok p) :
    (∃ p', (Product.read raw').value = .ok p') ∧
      (ofJson raw' ctx).value = (ofJson raw ctx).value := by
  induction hedits with
  | refl => exact ⟨hread, rfl⟩
  | tail _ hedit ih =>
    obtain ⟨⟨p', hread'⟩, hvalue⟩ := ih
    have hnext := ofJson_eq_of_edit hedit hread'
    exact ⟨hnext.1, hnext.2.trans hvalue⟩

/-- The condition for a default choice decides at most whether the item is
one. -/
theorem ofJson_eq_withDefault {ctx : Context} {raw raw' : Json} {p : Product}
    (hmembers : raw.AgreeOn (Product.readKeys.erase "default") raw')
    (hread : (Product.read raw).value = .ok p) :
    ∃ isDefault, (ofJson raw' ctx).value = (ofJson raw ctx).value.withDefault isDefault := by
  obtain ⟨elements, helements, -⟩ := (Product.read_eq_ok_iff.mp hread).packages
  have helements' : raw'.part? "packages" = some (.array elements) := by
    rw [hmembers.part?_eq (by decide), helements]
  have hsame : SameButDefault ctx raw raw' :=
    ⟨hmembers.mono (by decide), elements, elements, helements, helements', rfl⟩
  obtain ⟨p', hread', -, hselect⟩ := hsame.exists_read hread
  refine ⟨p'.isDefaultFor ctx.build, ?_⟩
  rw [ofJson_eq_select hread', ofJson_eq_select hread, hselect]

/-- What becomes of a product that can be read stays the same under any number
of edits: of members that are not read, in it and in its packages, of packages
that do not suit, and of packages after one that suits.  Another condition for
a default choice, or none, changes no more than whether the item is a default
choice. -/
theorem ofJson_noninterference (ctx : Context) (raw raw' : Json)
    (hread : ∃ p, (Product.read raw).value = .ok p) :
    (Relation.ReflTransGen (ProductEdit ctx) raw raw' →
      (ofJson raw' ctx).value = (ofJson raw ctx).value) ∧
    (raw.AgreeOn (Product.readKeys.erase "default") raw' →
      ∃ isDefault, (ofJson raw' ctx).value = (ofJson raw ctx).value.withDefault isDefault) := by
  refine ⟨fun hedits => (ofJson_eq_of_edits hedits hread).2, fun hmembers => ?_⟩
  obtain ⟨p, hp⟩ := hread
  exact ofJson_eq_withDefault hmembers hp

/-- A product with one package, and with other members and packages before
what has to be there. -/
def productWith (others : List (String × Json)) (packages : List Json) : Json :=
  let package : Json := .object [("os", .string "linux"), ("package_type", .string "zip"),
    ("url", .string "u"), ("sha256", .string "s"), ("archive_size", .number (.natural 1)),
    ("archive_file_name", .string "a"), ("unpacked_size", .number (.natural 2)),
    ("install_folder_name", .string "i")]
  .object (others ++ [("vendor", .string "v"), ("jdk_version_major", .number (.natural 17)),
    ("jdk_version", .string "17"), ("suggested_sdk_name", .string "n"),
    ("packages", .array (packages ++ [package]))])

/-- A context for which that package is. -/
def linuxContext : Context :=
  ⟨⟨none, [203], by decide⟩, .linux, .x86_64⟩

/-- A product that is kept gets a member that is not read, and then a package
that cannot be read.  On its own it gets a condition for a default choice. -/
theorem ofJson_of_note_and_package_added :
    (∃ p, (Product.read (productWith [] [])).value = .ok p) ∧
    (ofJson (productWith [] []) linuxContext).value.item?.isSome = true ∧
    Relation.ReflTransGen (ProductEdit linuxContext) (productWith [] [])
      (productWith [("note", .null)] [.null]) ∧
    (ofJson (productWith [("note", .null)] [.null]) linuxContext).value =
      (ofJson (productWith [] []) linuxContext).value ∧
    ∃ isDefault, (ofJson (productWith [("default", .bool true)] []) linuxContext).value =
      (ofJson (productWith [] []) linuxContext).value.withDefault isDefault := by
  have hread : ∃ p, (Product.read (productWith [] [])).value = .ok p := ⟨_, rfl⟩
  have hnote : ProductEdit linuxContext (productWith [] []) (productWith [("note", .null)] []) := by
    refine .members fun key hkey => ?_
    revert key
    simp [Product.readKeys, productWith, Json.member?, List.lookup_cons]
  have hnull : ∀ element ∈ [Json.null], ¬ Suits linuxContext element := by
    intro element hmem hsuits
    obtain ⟨package, hpackage⟩ := hsuits.readable
    rw [List.mem_singleton.mp hmem] at hpackage
    cases hpackage
  have hpackage : ProductEdit linuxContext (productWith [("note", .null)] [])
      (productWith [("note", .null)] [.null]) := by
    refine .packages (fun key hkey => ?_) rfl rfl (.insert [] _ hnull)
    revert key
    simp [Product.readKeys, productWith, Json.member?, List.lookup_cons]
  have hedits := (Relation.ReflTransGen.single hnote).tail hpackage
  have hdefault : (productWith [] []).AgreeOn (Product.readKeys.erase "default")
      (productWith [("default", .bool true)] []) := by
    simp [Json.AgreeOn, Product.readKeys, productWith, Json.member?, List.lookup_cons]
  exact ⟨hread, by decide +kernel, hedits, (ofJson_noninterference _ _ _ hread).1 hedits,
    (ofJson_noninterference _ _ _ hread).2 hdefault⟩

end Selection

end JdkCatalog
