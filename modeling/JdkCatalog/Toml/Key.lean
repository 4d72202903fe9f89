import JdkCatalog.Toml.Quoted

/-!
# Keys

A key is a path of names with dots between them.
-/

namespace JdkCatalog.Toml

open Text (Reader)

/-- The characters of a name without quotes. -/
def isNameChar (c : Char) : Bool :=
  c.isAlphanum || c = '_' || c = '-'

/-- Reads a name without quotes. -/
def bareName : Reader String := do
  let first ← Reader.satisfy isNameChar
  return String.ofList (first :: (← Reader.span isNameChar))

/-- Reads a name. -/
def name : Reader String :=
  basicText <|> literalText <|> bareName

/-- How many parts of a document may stand inside each other. -/
def greatestDepth : Nat := 79

/-- Reads a key: the names on the way, and the last one. -/
def key : Reader (List String × String) := do
  let names ← Reader.separated (discard (Reader.char '.')) (blanks *> name <* blanks)
  match names.getLast? with
  | some last => if names.length ≤ greatestDepth then return (names.dropLast, last) else failure
  | none => failure

end JdkCatalog.Toml
