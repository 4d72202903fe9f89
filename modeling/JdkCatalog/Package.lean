import JdkCatalog.Field
import JdkCatalog.Platform

/-!
# Packages

A package is one archive of a product, for one platform.
-/

namespace JdkCatalog

/-- The format of an archive. -/
inductive PackageType where
  | zip
  | tarGz
deriving DecidableEq

namespace PackageType

/-- The format that a tag names, in this very spelling. -/
def ofTag? (tag : String) : Option PackageType :=
  if tag = "zip" then some zip
  else if tag = "targz" then some tarGz
  else none

/-- The tag of a format. -/
def tag : PackageType → String
  | zip => "zip"
  | tarGz => "targz"

/-- The rank of a format in listings. -/
def rank : PackageType → Nat
  | zip => 0
  | tarGz => 1

/-- The format that a package has to name. -/
def read (members : Field.Members) : Except Rejection PackageType := do
  let tag ← Field.text members "package_type"
  match ofTag? tag with
  | some packageType => return packageType
  | none => throw (.unknownType tag)

end PackageType

/-- An archive of a product. -/
structure Package where
  os : Os
  arch : Arch
  packageType : PackageType
  /-- The builds that the package is for. -/
  filter : Option Filter
  url : String
  sha256 : String
  archiveSize : UInt64
  archiveFileName : String
  /-- The folder of the archive that is unpacked. -/
  unpackFolder : String
  unpackedSize : UInt64
  installFolderName : String
  /-- The way from the install folder to the Java home. -/
  javaHomePath : String
deriving BEq

namespace Package

/-- Reads a package.  The first field that is wrong, in the order written
here, is the one that is reported. -/
def read (raw : Json) : Except Rejection Package := do
  let members ← Field.object raw
  let os ← Field.text members "os"
  let arch ← Field.text? members "arch"
  let packageType ← PackageType.read members
  let url ← Field.text members "url"
  let sha256 ← Field.text members "sha256"
  let archiveSize ← Field.natural members "archive_size"
  let archiveFileName ← Field.text members "archive_file_name"
  let unpackFolder ← Field.text? members "unpack_prefix_filter"
  let unpackedSize ← Field.natural members "unpacked_size"
  let installFolderName ← Field.text members "install_folder_name"
  let javaHomePath ← Field.text? members "package_to_java_home_prefix"
  return {
    os := Os.ofTag os
    arch := (arch.map Arch.ofTag).getD .x86_64
    packageType
    filter := Field.filter? members "filter"
    url
    sha256
    archiveSize
    archiveFileName
    unpackFolder := unpackFolder.getD ""
    unpackedSize
    installFolderName
    javaHomePath := javaHomePath.getD "" }

end Package

end JdkCatalog
