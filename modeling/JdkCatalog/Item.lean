import JdkCatalog.Product
import JdkCatalog.Version

/-!
# Items

An item is a product with the one package of it that fits a platform: what
is offered for download.  Items are listed newest first.
-/

namespace JdkCatalog

/-- The names of a product. -/
structure ProductName where
  vendor : String
  product : Option String
  flavour : Option String
deriving DecidableEq

namespace ProductName

/-- The vendor, the product, and the flavour in brackets. -/
def text (name : ProductName) : String :=
  name.vendor ++ ((name.product.map (" " ++ ·)).getD "") ++
    ((name.flavour.map (" (" ++ · ++ ")")).getD "")

/-- The order of names; an absent part comes first. -/
def compare : ProductName → ProductName → Ordering :=
  compareLex (compareOn vendor) (compareLex (compareOn product) (compareOn flavour))

end ProductName

/-- A JDK that can be downloaded. -/
structure Item where
  name : ProductName
  isDefault : Bool
  jdkMajorVersion : UInt32
  jdkVersion : String
  jdkVendorVersion : Option String
  vendorVersion : Option String
  suggestedSdkName : String
  os : Os
  arch : Arch
  packageType : PackageType
  url : String
  sha256 : String
  archiveSize : UInt64
  archiveFileName : String
  /-- The folder of the archive that is unpacked. -/
  unpackFolder : String
  unpackedSize : UInt64
  installFolderName : String
  /-- The way from the install folder to the Java home. -/
  javaHomePath : String
  sharedIndexAliases : List String
deriving DecidableEq

namespace Item

/-- The item of a package of a product. -/
def ofPackage (product : Product) (package : Package) (isDefault : Bool) : Item where
  name := ⟨product.vendor, product.product, product.flavour⟩
  isDefault
  jdkMajorVersion := product.jdkVersionMajor
  jdkVersion := product.jdkVersion
  jdkVendorVersion := product.jdkVendorVersion
  vendorVersion := product.vendorVersion
  suggestedSdkName := product.suggestedSdkName
  os := package.os
  arch := package.arch
  packageType := package.packageType
  url := package.url
  sha256 := package.sha256
  archiveSize := package.archiveSize
  archiveFileName := package.archiveFileName
  unpackFolder := package.unpackFolder
  unpackedSize := package.unpackedSize
  installFolderName := package.installFolderName
  javaHomePath := package.javaHomePath
  sharedIndexAliases := product.sharedIndexAliases

/-! ## Presentation -/

/-- The version up to its first plus sign. -/
def coreVersion (item : Item) : String :=
  String.ofList (item.jdkVersion.toList.takeWhile (· != '+'))

/-- What follows the first plus sign of the version. -/
def metadata (item : Item) : Option String :=
  match item.jdkVersion.toList.dropWhile (· != '+') with
  | [] => none
  | _ :: metadata => some (String.ofList metadata)

/-- The version to show: the vendor's own, if there is one. -/
def versionText (item : Item) : String :=
  item.jdkVendorVersion.getD item.jdkVersion

/-- The names and the version. -/
def fullText (item : Item) : String :=
  item.name.text ++ " " ++ item.versionText

/-- The names without the version. -/
def versionlessText (item : Item) : String :=
  item.name.text

/-- The names, the version, and what the package is for. -/
def text (item : Item) : String :=
  item.fullText ++ " [" ++ item.os.tag ++ "/" ++ item.arch.tag ++ " " ++
    item.packageType.tag ++ "]"

/-! ## Order -/

/-- An absent version comes before every version. -/
def compareAbsentFirst : Option String → Option String → Ordering
  | none, none => .eq
  | none, some _ => .lt
  | some _, none => .gt
  | some a, some b => Version.compare a b

/-- The order of listings: the newest major version and the newest core
version come first; then the vendor's version, the build metadata, the names,
the architecture, the package type and the address decide. -/
def order : Item → Item → Ordering :=
  compareLex (fun a b => compare b.jdkMajorVersion a.jdkMajorVersion) <|
  compareLex (fun a b => Version.compare b.coreVersion a.coreVersion) <|
  compareLex (fun a b => compareAbsentFirst a.vendorVersion b.vendorVersion) <|
  compareLex (fun a b => compareAbsentFirst a.metadata b.metadata) <|
  compareLex (fun a b => a.name.compare b.name) <|
  compareLex (compareOn fun item => item.arch.tag) <|
  compareLex (compareOn fun item => item.packageType.rank) (compareOn url)

/-- The items in the order of listings; those that tie keep their order. -/
def sort (items : List Item) : List Item :=
  items.mergeSort fun a b => (order a b).isLE

end Item

end JdkCatalog
