import JdkCatalog.BuildNumber.Grammar
import JdkCatalog.Json.Reader

/-!
# Build numbers in JSON

A build number stands in JSON as a string with its text.
-/

namespace JdkCatalog.BuildNumber

/-- Why a text is not a build number in JSON. -/
inductive JsonError where
  /-- The text is not JSON. -/
  | json (failure : Json.Failure)
  /-- The value is no string, or the string is no build number. -/
  | otherValue
deriving DecidableEq

/-- The build number that a JSON text is.  A value of another type is refused
once its type is known, and a string before what follows it is read. -/
def ofJsonText (bytes : List UInt8) : Except JsonError BuildNumber :=
  match Json.skipBlank bytes with
  | 0x22 :: rest =>
    match Json.readString [] rest with
    | .error failure => .error (.json failure)
    | .ok (s, rest) =>
      match parse s with
      | .error _ => .error .otherValue
      | .ok build =>
        if (Json.skipBlank rest).isEmpty then .ok build else .error (.json .malformed)
  | 0x5b :: _ => .error .otherValue
  | 0x7b :: _ => .error .otherValue
  | rest =>
    match Json.readValue 0 0 rest with
    | .error failure => .error (.json failure)
    | .ok _ => .error .otherValue

/-- The JSON text of a build number. -/
def jsonText (b : BuildNumber) : String :=
  Json.stringText b.text

end JdkCatalog.BuildNumber
