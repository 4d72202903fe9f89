import JdkCatalog.Product

/-!
# What the entries of a feed state

Products and packages are read field by field, with a failure at the first
field that is wrong.  This module says what it means that such a reading
succeeds, field by field and without order.

* `Json.part?` is a part of a value, where `null` counts as not given.
* `Field.text_eq_ok_iff` and its companions say for each kind of field which
  parts it can be read from.
* `Package.StatedBy` and `Product.StatedBy` relate an entry to the value that
  states it.  `Package.read_eq_ok_iff` and `Product.read_eq_ok_iff` say that
  this is what it means to be read from it.
-/

namespace JdkCatalog

theorem except_bind_eq_ok_iff {ε α β : Type} {x : Except ε α} {f : α → Except ε β} {b : β} :
    x >>= f = .ok b ↔ ∃ a, x = .ok a ∧ f a = .ok b := by
  cases x <;> simp [bind, Except.bind]

theorem except_pure_eq_ok_iff {ε α : Type} {a b : α} :
    (pure a : Except ε α) = .ok b ↔ a = b :=
  Except.ok.injEq a b ▸ Iff.rfl

namespace Json

/-- A part of a value by its key; what is `null` counts as not given. -/
def part? (key : String) (raw : Json) : Option Json :=
  match raw.member? key with
  | some null => none
  | part => part

/-- Only objects have parts. -/
theorem exists_object_of_part? {key : String} {raw part : Json}
    (hpart : raw.part? key = some part) : ∃ members, raw = object members := by
  cases raw with
  | object members => exact ⟨members, rfl⟩
  | _ => cases hpart

theorem string?_eq_some_iff {value : Json} {s : String} :
    value.string? = some s ↔ value = string s := by
  cases value <;> simp [string?]

theorem natural?_eq_some_iff {value : Json} {n : UInt64} :
    value.natural? = some n ↔ value = number (.natural n) := by
  cases value with
  | number m => cases m <;> simp [natural?]
  | _ => simp [natural?]

theorem array?_eq_some_iff {value : Json} {items : List Json} :
    value.array? = some items ↔ value = array items := by
  cases value <;> simp [array?]

/-- A text with a default is the text that is given, or else the default. -/
theorem getD_string_iff {part : Option Json} {default s : String} :
    part.getD (string default) = string s ↔
      ∃ s? : Option String, part = s?.map string ∧ s?.getD default = s := by
  cases part with
  | none =>
    constructor
    · intro h
      exact ⟨none, rfl, string.inj h⟩
    · intro h
      rcases h with ⟨s?, hnone, rfl⟩
      rw [Option.map_eq_none_iff.mp hnone.symm]
      rfl
  | some value =>
    constructor
    · intro h
      exact ⟨some s, congrArg some h, rfl⟩
    · intro h
      rcases h with ⟨s?, hsome, rfl⟩
      obtain ⟨s, rfl, hs⟩ := Option.map_eq_some_iff.mp hsome.symm
      exact hs.symm

end Json

namespace Field

/-! ## Kinds of fields -/

variable {members : Members} {name : String}

theorem object_eq_ok_iff {raw : Json} : object raw = .ok members ↔ raw = .object members := by
  cases raw <;> simp [object]

theorem text_eq_ok_iff {s : String} :
    text members name = .ok s ↔ Json.given? name members = some (.string s) := by
  rw [text]
  split <;> simp_all

theorem text?_eq_ok_iff {s? : Option String} :
    text? members name = .ok s? ↔ Json.given? name members = s?.map .string := by
  rw [text?]
  split <;> cases s? <;> simp_all

theorem natural_eq_ok_iff {n : UInt64} :
    natural members name = .ok n ↔ Json.given? name members = some (.number (.natural n)) := by
  rw [natural]
  split
  · simp_all
  · rename_i value hvalue
    rw [hvalue, Option.some_inj, ← Json.natural?_eq_some_iff]
    split <;> simp_all

theorem toUInt64_toUInt32_of_lt {n : UInt64} (hlt : n.toNat < UInt32.size) :
    n.toUInt32.toUInt64 = n := by
  apply UInt64.toNat.inj
  rw [UInt32.toNat_toUInt64, UInt64.toNat_toUInt32]
  exact Nat.mod_eq_of_lt hlt

/-- A number of 64 bits that fits 32 bits is a number of 32 bits, and no other
is. -/
theorem natural32_eq_ok_iff {n : UInt32} :
    natural32 members name = .ok n ↔
      Json.given? name members = some (.number (.natural n.toUInt64)) := by
  rw [natural32, except_bind_eq_ok_iff, ← natural_eq_ok_iff]
  constructor
  · intro h
    rcases h with ⟨m, hm, hn⟩
    split at hn
    · rename_i hlt
      cases hn
      rw [toUInt64_toUInt32_of_lt hlt]
      exact hm
    · cases hn
  · intro hn
    have hlt : n.toUInt64.toNat < UInt32.size := by
      rw [UInt32.toNat_toUInt64]
      exact n.toNat_lt_size
    refine ⟨n.toUInt64, hn, ?_⟩
    rw [if_pos hlt, UInt32.toUInt32_toUInt64]
    rfl

theorem array_eq_ok_iff {items : List Json} :
    array members name = .ok items ↔ Json.given? name members = some (.array items) := by
  rw [array]
  split <;> simp_all

theorem mapM_string?_eq_some_iff {items : List Json} {ss : List String} :
    items.mapM Json.string? = some ss ↔ items = ss.map .string := by
  induction items generalizing ss with
  | nil => cases ss <;> simp
  | cons item items ih =>
    cases ss with
    | nil => simp [Option.bind_eq_some_iff]
    | cons s ss =>
      simp [Option.bind_eq_some_iff, ih, Json.string?_eq_some_iff]

theorem texts_eq_ok_iff {ss : List String} :
    texts members name = .ok ss ↔
      (Json.given? name members).getD (.array []) = .array (ss.map .string) := by
  rw [texts]
  split
  · simp_all
  · rename_i items hitems
    rw [hitems, Option.getD_some, Json.array.injEq, ← mapM_string?_eq_some_iff]
    split <;> simp_all
  · simp_all

end Field

/-! ## Packages -/

/-- The system that a value names as that of a package. -/
def Os.stated? (raw : Json) : Option Os :=
  match raw.part? "os" with
  | some (.string tag) => some (ofTag tag)
  | _ => none

/-- The architecture that a value names as that of a package; where it names
none, it is x86_64. -/
def Arch.stated? (raw : Json) : Option Arch :=
  match raw.part? "arch" with
  | none => some .x86_64
  | some (.string tag) => some (ofTag tag)
  | some _ => none

theorem Os.stated?_eq_some_iff {raw : Json} {os : Os} :
    stated? raw = some os ↔ ∃ tag, raw.part? "os" = some (.string tag) ∧ ofTag tag = os := by
  rw [stated?]
  split <;> simp_all

theorem Arch.stated?_eq_some_iff {raw : Json} {arch : Arch} :
    stated? raw = some arch ↔
      ∃ tag? : Option String, raw.part? "arch" = tag?.map .string ∧
        (tag?.map ofTag).getD .x86_64 = arch := by
  rw [stated?]
  constructor
  · intro h
    split at h
    · rename_i hpart
      exact ⟨none, hpart, Option.some.inj h⟩
    · rename_i tag hpart
      exact ⟨some tag, hpart, Option.some.inj h⟩
    · cases h
  · intro h
    rcases h with ⟨tag?, hpart, rfl⟩
    rw [hpart]
    cases tag? <;> rfl

theorem PackageType.ofTag?_eq_some_iff {tag : String} {packageType : PackageType} :
    ofTag? tag = some packageType ↔ tag = packageType.tag := by
  rw [ofTag?]
  split
  · subst_vars; cases packageType <;> simp [PackageType.tag]
  · split <;> cases packageType <;> simp_all [PackageType.tag]

theorem PackageType.read_eq_ok_iff {members : Field.Members} {packageType : PackageType} :
    read members = .ok packageType ↔
      Json.given? "package_type" members = some (.string packageType.tag) := by
  rw [read, except_bind_eq_ok_iff]
  constructor
  · intro h
    rcases h with ⟨tag, htag, htype⟩
    split at htype
    · rename_i known hknown
      cases htype
      rw [← ofTag?_eq_some_iff.mp hknown]
      exact Field.text_eq_ok_iff.mp htag
    · cases htype
  · intro htag
    refine ⟨packageType.tag, Field.text_eq_ok_iff.mpr htag, ?_⟩
    rw [ofTag?_eq_some_iff.mpr rfl]
    rfl

namespace Package

/-- A package is what a value of a feed says, part by part. -/
structure StatedBy (package : Package) (raw : Json) : Prop where
  os : Os.stated? raw = some package.os
  arch : Arch.stated? raw = some package.arch
  packageType : raw.part? "package_type" = some (.string package.packageType.tag)
  filter : package.filter = (raw.part? "filter").map Filter.ofJson
  url : raw.part? "url" = some (.string package.url)
  sha256 : raw.part? "sha256" = some (.string package.sha256)
  archiveSize : raw.part? "archive_size" = some (.number (.natural package.archiveSize))
  archiveFileName : raw.part? "archive_file_name" = some (.string package.archiveFileName)
  unpackFolder : (raw.part? "unpack_prefix_filter").getD (.string "") =
    .string package.unpackFolder
  unpackedSize : raw.part? "unpacked_size" = some (.number (.natural package.unpackedSize))
  installFolderName : raw.part? "install_folder_name" = some (.string package.installFolderName)
  javaHomePath : (raw.part? "package_to_java_home_prefix").getD (.string "") =
    .string package.javaHomePath

theorem read_eq_ok_iff {raw : Json} {package : Package} :
    read raw = .ok package ↔ package.StatedBy raw := by
  simp only [read, except_bind_eq_ok_iff, Field.object_eq_ok_iff, Field.text_eq_ok_iff,
    Field.text?_eq_ok_iff, Field.natural_eq_ok_iff, PackageType.read_eq_ok_iff,
    except_pure_eq_ok_iff]
  constructor
  · intro h
    rcases h with ⟨members, rfl, os, hos, arch, harch, packageType, htype, url, hurl, sha256,
      hsha256, archiveSize, harchiveSize, archiveFileName, hname, unpackFolder, hunpack,
      unpackedSize, hunpackedSize, installFolderName, hinstall, javaHomePath, hhome, rfl⟩
    exact {
      os := Os.stated?_eq_some_iff.mpr ⟨os, hos, rfl⟩
      arch := Arch.stated?_eq_some_iff.mpr ⟨arch, harch, rfl⟩
      packageType := htype
      filter := rfl
      url := hurl
      sha256 := hsha256
      archiveSize := harchiveSize
      archiveFileName := hname
      unpackFolder := Json.getD_string_iff.mpr ⟨unpackFolder, hunpack, rfl⟩
      unpackedSize := hunpackedSize
      installFolderName := hinstall
      javaHomePath := Json.getD_string_iff.mpr ⟨javaHomePath, hhome, rfl⟩ }
  · intro h
    obtain ⟨members, rfl⟩ := Json.exists_object_of_part? h.url
    obtain ⟨os, hos, hosTag⟩ := Os.stated?_eq_some_iff.mp h.os
    obtain ⟨arch, harch, harchTag⟩ := Arch.stated?_eq_some_iff.mp h.arch
    obtain ⟨unpackFolder, hunpack, hfolder⟩ := Json.getD_string_iff.mp h.unpackFolder
    obtain ⟨javaHomePath, hhome, hpath⟩ := Json.getD_string_iff.mp h.javaHomePath
    refine ⟨members, rfl, os, hos, arch, harch, package.packageType, h.packageType, package.url,
      h.url, package.sha256, h.sha256, package.archiveSize, h.archiveSize,
      package.archiveFileName, h.archiveFileName, unpackFolder, hunpack, package.unpackedSize,
      h.unpackedSize, package.installFolderName, h.installFolderName, javaHomePath, hhome, ?_⟩
    rw [hfolder, hpath, harchTag, hosTag]
    have hfilter : Field.filter? members "filter" = package.filter := h.filter.symm
    rw [hfilter]

/-- The package that can be read from a value, if one can. -/
def read? (raw : Json) : Option Package :=
  (read raw).toOption

theorem read?_eq_some_iff {raw : Json} {package : Package} :
    read? raw = some package ↔ read raw = .ok package := by
  rw [read?]
  cases read raw <;> simp [Except.toOption]

end Package

namespace Product

/-! ## Products -/

/-- A product is what a value of a feed says, part by part; of its packages
there are those that can be read. -/
structure StatedBy (p : Product) (raw : Json) : Prop where
  vendor : raw.part? "vendor" = some (.string p.vendor)
  product : raw.part? "product" = p.product.map .string
  flavour : raw.part? "flavour" = p.flavour.map .string
  isDefault : p.isDefault = (raw.part? "default").map Filter.ofJson
  filter : p.filter = (raw.part? "filter").map Filter.ofJson
  jdkVersionMajor : raw.part? "jdk_version_major" =
    some (.number (.natural p.jdkVersionMajor.toUInt64))
  jdkVersion : raw.part? "jdk_version" = some (.string p.jdkVersion)
  jdkVendorVersion : raw.part? "jdk_vendor_version" = p.jdkVendorVersion.map .string
  vendorVersion : raw.part? "vendor_version" = p.vendorVersion.map .string
  suggestedSdkName : raw.part? "suggested_sdk_name" = some (.string p.suggestedSdkName)
  sharedIndexAliases : (raw.part? "shared_index_aliases").getD (.array []) =
    .array (p.sharedIndexAliases.map .string)
  packages : ∃ elements, raw.part? "packages" = some (.array elements) ∧
    p.packages = elements.filterMap Package.read?

/-- The log of reading the packages does not affect which are read. -/
theorem value_readPackages (vendor version : String) (index : Nat) (raws : List Json) :
    (readPackages vendor version index raws).value = raws.filterMap Package.read? := by
  induction raws generalizing index with
  | nil => rfl
  | cons raw raws ih =>
    rw [readPackages, List.filterMap_cons, Package.read?]
    cases Package.read raw with
    | ok package =>
      rw [Logged.value_bind, ih]
      rfl
    | error reason =>
      rw [Logged.value_bind, ih]
      rfl

theorem readHead_eq_ok_iff {raw : Json} {head : Head} :
    readHead raw = .ok head ↔
      raw = .object head.members ∧
      raw.part? "vendor" = some (.string head.vendor) ∧
      raw.part? "jdk_version_major" = some (.number (.natural head.jdkVersionMajor.toUInt64)) ∧
      raw.part? "jdk_version" = some (.string head.jdkVersion) ∧
      raw.part? "suggested_sdk_name" = some (.string head.suggestedSdkName) ∧
      raw.part? "packages" = some (.array head.rawPackages) := by
  simp only [readHead, except_bind_eq_ok_iff, Field.object_eq_ok_iff, Field.text_eq_ok_iff,
    Field.natural32_eq_ok_iff, Field.array_eq_ok_iff, except_pure_eq_ok_iff]
  constructor
  · intro h
    rcases h with ⟨members, rfl, vendor, hvendor, major, hmajor, version, hversion, name, hname,
      packages, hpackages, rfl⟩
    exact ⟨rfl, hvendor, hmajor, hversion, hname, hpackages⟩
  · intro h
    rcases h with ⟨rfl, hvendor, hmajor, hversion, hname, hpackages⟩
    exact ⟨_, rfl, _, hvendor, _, hmajor, _, hversion, _, hname, _, hpackages, rfl⟩

theorem read_eq_ok_iff {raw : Json} {p : Product} :
    (read raw).value = .ok p ↔ p.StatedBy raw := by
  constructor
  · intro h
    rw [read] at h
    split at h
    · cases h
    rename_i head hhead
    obtain ⟨rfl, hvendor, hmajor, hversion, hsdk, hpackages⟩ := readHead_eq_ok_iff.mp hhead
    simp only [Logged.value_bind, Logged.value_pure, value_readPackages, Head.complete,
      except_bind_eq_ok_iff, Field.text?_eq_ok_iff, Field.texts_eq_ok_iff,
      except_pure_eq_ok_iff] at h
    obtain ⟨product, hproduct, flavour, hflavour, jdkVendorVersion, hjdkVendorVersion,
      vendorVersion, hvendorVersion, aliases, haliases, rfl⟩ := h
    exact {
      vendor := hvendor
      product := hproduct
      flavour := hflavour
      isDefault := rfl
      filter := rfl
      jdkVersionMajor := hmajor
      jdkVersion := hversion
      jdkVendorVersion := hjdkVendorVersion
      vendorVersion := hvendorVersion
      suggestedSdkName := hsdk
      sharedIndexAliases := haliases
      packages := ⟨head.rawPackages, hpackages, rfl⟩ }
  · intro h
    obtain ⟨members, rfl⟩ := Json.exists_object_of_part? h.vendor
    obtain ⟨elements, helements, hpackages⟩ := h.packages
    have hhead : readHead (.object members) = .ok {
        members
        vendor := p.vendor
        jdkVersionMajor := p.jdkVersionMajor
        jdkVersion := p.jdkVersion
        suggestedSdkName := p.suggestedSdkName
        rawPackages := elements } :=
      readHead_eq_ok_iff.mpr ⟨rfl, h.vendor, h.jdkVersionMajor, h.jdkVersion,
        h.suggestedSdkName, helements⟩
    rw [read, hhead]
    simp only [Logged.value_bind, Logged.value_pure, value_readPackages, Head.complete,
      except_bind_eq_ok_iff, Field.text?_eq_ok_iff, Field.texts_eq_ok_iff,
      except_pure_eq_ok_iff]
    refine ⟨p.product, h.product, p.flavour, h.flavour, p.jdkVendorVersion, h.jdkVendorVersion,
      p.vendorVersion, h.vendorVersion, p.sharedIndexAliases, h.sharedIndexAliases, ?_⟩
    have hfilter : Field.filter? members "filter" = p.filter := h.filter.symm
    have hdefault : Field.filter? members "default" = p.isDefault := h.isDefault.symm
    rw [hfilter, hdefault, ← hpackages]

end Product

end JdkCatalog
