import JdkCatalog.Filter.OfJson
import JdkCatalog.Rejection

/-!
# Fields of feed entries

Reading the members of an object into the fields of a product or a package.
A member that is absent or `null` is not given; what is given has to have
the right type.  A filter is never wrong.
-/

namespace JdkCatalog.Field

/-- The members of an object. -/
abbrev Members := List (String × Json)

/-- The members of a value that has to be an object. -/
def object : Json → Except Rejection Members
  | .object members => .ok members
  | _ => .error .notAnObject

/-- A text that has to be given. -/
def text (members : Members) (name : String) : Except Rejection String :=
  match Json.given? name members with
  | none => .error (.missing name)
  | some (.string s) => .ok s
  | some _ => .error (.invalid name)

/-- A text that need not be given. -/
def text? (members : Members) (name : String) : Except Rejection (Option String) :=
  match Json.given? name members with
  | none => .ok none
  | some (.string s) => .ok (some s)
  | some _ => .error (.invalid name)

/-- A whole number of 64 bits that has to be given. -/
def natural (members : Members) (name : String) : Except Rejection UInt64 :=
  match Json.given? name members with
  | none => .error (.missing name)
  | some value =>
    match value.natural? with
    | some n => .ok n
    | none => .error (.invalid name)

/-- A whole number of 32 bits that has to be given. -/
def natural32 (members : Members) (name : String) : Except Rejection UInt32 := do
  let n ← natural members name
  if n.toNat < UInt32.size then return n.toUInt32 else throw (.invalid name)

/-- An array that has to be given. -/
def array (members : Members) (name : String) : Except Rejection (List Json) :=
  match Json.given? name members with
  | none => .error (.missing name)
  | some (.array items) => .ok items
  | some _ => .error (.invalid name)

/-- A list of texts; where it is not given there are none. -/
def texts (members : Members) (name : String) : Except Rejection (List String) :=
  match Json.given? name members with
  | none => .ok []
  | some (.array items) =>
    match items.mapM Json.string? with
    | some texts => .ok texts
    | none => .error (.invalid name)
  | some _ => .error (.invalid name)

/-- A filter that need not be given. -/
def filter? (members : Members) (name : String) : Option Filter :=
  (Json.given? name members).map Filter.ofJson

end JdkCatalog.Field
