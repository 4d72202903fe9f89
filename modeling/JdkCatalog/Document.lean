import JdkCatalog.Json.Reader

/-!
# Documents

A feed is a JSON object whose member `jdks` is the array of the products.
What the elements of that array are is not looked at here.
-/

namespace JdkCatalog

/-- The products of a feed, as they were written. -/
structure Document where
  products : List Json

namespace Document

/-- Why a text is not a feed. -/
inductive ReadError where
  | json (failure : Json.Failure)
  | notAnObject
  | missingProducts
  | productsNotArray
deriving DecidableEq

/-- The wording of an error; for text that is not JSON only the beginning. -/
def ReadError.message : ReadError → String
  | json _ => "invalid JSON: "
  | notAnObject => "top-level value is not an object"
  | missingProducts => "missing top-level 'jdks' array"
  | productsNotArray => "'jdks' is not an array"

/-- The document that a value is. -/
def ofJson : Json → Except ReadError Document
  | .object members =>
    match members.lookup "jdks" with
    | some (.array products) => .ok ⟨products⟩
    | some _ => .error .productsNotArray
    | none => .error .missingProducts
  | _ => .error .notAnObject

/-- The document that a text is. -/
def read (bytes : List UInt8) : Except ReadError Document :=
  match Json.read bytes with
  | .error failure => .error (.json failure)
  | .ok value => ofJson value

end Document

end JdkCatalog
