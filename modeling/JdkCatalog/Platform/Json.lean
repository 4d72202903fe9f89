import JdkCatalog.Json.Reader
import JdkCatalog.Platform

/-!
# Platforms in JSON

An operating system or an architecture stands in JSON as a string with its tag.
It is read as a tag is, so that any spelling of the tag will do.
-/

namespace JdkCatalog

/-- The string that a JSON text is. -/
def Json.readString? (bytes : List UInt8) : Option String :=
  match read bytes with
  | .ok value => value.string?
  | .error _ => none

/-- The JSON text of a system. -/
def Os.jsonText (os : Os) : String :=
  Json.stringText os.tag

/-- The system that a JSON text is. -/
def Os.ofJsonText? (bytes : List UInt8) : Option Os :=
  (Json.readString? bytes).map ofTag

/-- The JSON text of an architecture. -/
def Arch.jsonText (arch : Arch) : String :=
  Json.stringText arch.tag

/-- The architecture that a JSON text is. -/
def Arch.ofJsonText? (bytes : List UInt8) : Option Arch :=
  (Json.readString? bytes).map ofTag

end JdkCatalog
