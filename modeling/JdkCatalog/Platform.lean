import JdkCatalog.BuildNumber

/-!
# Platforms

Operating systems and processor architectures are named by tags.  Tags are
read without regard to ASCII case and with their common aliases; a tag that
is not known is kept in lower case.
-/

namespace JdkCatalog

/-- An operating system. -/
inductive Os where
  | linux
  | macOs
  | windows
  | other (tag : String)
deriving DecidableEq

namespace Os

/-- The system that a tag names. -/
def ofTag (tag : String) : Os :=
  let tag := tag.map Char.toLower
  if tag = "linux" then linux
  else if tag = "macos" ∨ tag = "mac" ∨ tag = "darwin" then macOs
  else if tag = "windows" then windows
  else other tag

/-- The tag of a system. -/
def tag : Os → String
  | linux => "linux"
  | macOs => "macOS"
  | windows => "windows"
  | other tag => tag

end Os

/-- A processor architecture. -/
inductive Arch where
  | x86_64
  | aarch64
  | other (tag : String)
deriving DecidableEq

namespace Arch

/-- The architecture that a tag names. -/
def ofTag (tag : String) : Arch :=
  let tag := tag.map Char.toLower
  if tag = "x86_64" ∨ tag = "amd64" ∨ tag = "x64" then x86_64
  else if tag = "aarch64" ∨ tag = "arm64" then aarch64
  else other tag

/-- The tag of an architecture. -/
def tag : Arch → String
  | x86_64 => "x86_64"
  | aarch64 => "aarch64"
  | other tag => tag

end Arch

/-- What a feed is read for: a build of the program that reads it, on a
platform. -/
structure Context where
  /-- The build that filters are about. -/
  build : BuildNumber
  /-- The operating system. -/
  os : Os
  /-- The architecture. -/
  arch : Arch
deriving BEq

end JdkCatalog
