import JdkCatalog.Event
import JdkCatalog.Package

/-!
# Products

A product is one version of a JDK from one vendor, with its packages.  A
product is read field by field, and the packages that cannot be read are
dropped from it; each of them is reported.
-/

namespace JdkCatalog

/-- One version of a JDK. -/
structure Product where
  vendor : String
  product : Option String
  flavour : Option String
  /-- The builds for which the product is a default choice. -/
  isDefault : Option Filter
  /-- The builds that the product is for. -/
  filter : Option Filter
  jdkVersionMajor : UInt32
  jdkVersion : String
  jdkVendorVersion : Option String
  vendorVersion : Option String
  suggestedSdkName : String
  sharedIndexAliases : List String
  packages : List Package
deriving BEq

namespace Product

/-- The vendor, the names that are given, and the version. -/
def label (p : Product) : String :=
  " ".intercalate ([p.vendor] ++ p.product.toList ++ p.flavour.toList ++ [p.jdkVersion])

/-- The fields that are read before the packages are. -/
structure Head where
  members : Field.Members
  vendor : String
  jdkVersionMajor : UInt32
  jdkVersion : String
  suggestedSdkName : String
  rawPackages : List Json

/-- Reads the fields before the packages. -/
def readHead (raw : Json) : Except Rejection Head := do
  let members ← Field.object raw
  let vendor ← Field.text members "vendor"
  let jdkVersionMajor ← Field.natural32 members "jdk_version_major"
  let jdkVersion ← Field.text members "jdk_version"
  let suggestedSdkName ← Field.text members "suggested_sdk_name"
  let rawPackages ← Field.array members "packages"
  return { members, vendor, jdkVersionMajor, jdkVersion, suggestedSdkName, rawPackages }

/-- Reads the packages of a product, from a given index on, and drops those
that cannot be read. -/
def readPackages (vendor version : String) (index : Nat) : List Json → Logged (List Package)
  | [] => return []
  | raw :: raws =>
    match Package.read raw with
    | .ok package => do
      let packages ← readPackages vendor version (index + 1) raws
      return package :: packages
    | .error reason => do
      Logged.report (.droppingPackage vendor version index reason)
      readPackages vendor version (index + 1) raws

/-- Reads the fields after the packages. -/
def Head.complete (head : Head) (packages : List Package) : Except Rejection Product := do
  let product ← Field.text? head.members "product"
  let flavour ← Field.text? head.members "flavour"
  let jdkVendorVersion ← Field.text? head.members "jdk_vendor_version"
  let vendorVersion ← Field.text? head.members "vendor_version"
  let sharedIndexAliases ← Field.texts head.members "shared_index_aliases"
  return {
    vendor := head.vendor
    product
    flavour
    isDefault := Field.filter? head.members "default"
    filter := Field.filter? head.members "filter"
    jdkVersionMajor := head.jdkVersionMajor
    jdkVersion := head.jdkVersion
    jdkVendorVersion
    vendorVersion
    suggestedSdkName := head.suggestedSdkName
    sharedIndexAliases
    packages }

/-- Reads a product.  The first field that is wrong is the one that is
reported, and packages are dropped also from a product that turns out wrong
after them. -/
def read (raw : Json) : Logged (Except Rejection Product) :=
  match readHead raw with
  | .error reason => return .error reason
  | .ok head => do
    let packages ← readPackages head.vendor head.jdkVersion 0 head.rawPackages
    return head.complete packages

end Product

end JdkCatalog
