import JdkCatalog.Toml.Key
import JdkCatalog.Toml.Moment
import JdkCatalog.Toml.Numeral
import JdkCatalog.Toml.Table

/-!
# Reading TOML

A document is a sequence of lines, each with at most one statement: a key with
its value, or a header that opens a table.  The main statement says that the
names of a document are distinct (`nodup_of_read?`).
-/

namespace JdkCatalog.Toml

open Text (Reader)

/-! ## Values -/

/-- Reads a value without parts. -/
def scalar : Reader Value :=
  (Value.string <$> quoted) <|> (Value.moment <$> moment) <|> (Value.real <$> real) <|>
    (Value.integer <$> integer) <|> (Reader.word "true" *> pure (.boolean true)) <|>
    (Reader.word "false" *> pure (.boolean false))

/-- Reads an array, given how to read its elements.  A comma may follow the
last one. -/
def array (value : Reader Value) : Reader Value := do
  discard (Reader.char '[')
  let comma : Reader Unit := discard (Reader.char ',')
  let items ← optional (Reader.separated comma (gaps *> value <* gaps) <* optional comma)
  gaps
  discard (Reader.char ']')
  return .array (items.getD [])

/-- Reads a key and its value, given how to read values. -/
def assignment (value : Reader Value) : Reader ((List String × String) × Value) := do
  let key ← key
  discard (Reader.char '=')
  blanks
  return (key, ← value)

/-- The table that keys with their values make. -/
def tableOf? (assignments : List ((List String × String) × Value)) : Option Value := do
  let add (entries : Entries) : (List String × String) × Value → Option Entries
    | ((path, name), v) => entries.assign path name v .header
  let entries ← assignments.foldlM add []
  return .table (Entries.finish entries)

/-- Reads a table within a line, given how to read its values. -/
def inlineTable (value : Reader Value) : Reader Value := do
  discard (Reader.char '\x7b')
  let comma : Reader Unit := discard (Reader.char ',')
  let assignments ← optional (Reader.separated comma (assignment value <* blanks))
  blanks
  discard (Reader.char '\x7d')
  StateT.lift (tableOf? (assignments.getD []))

/-- Reads a value with at most a given number of arrays and tables inside each
other. -/
def valueOfDepth : (depth : Nat) → Reader Value
  | 0 => scalar
  | depth + 1 => array (valueOfDepth depth) <|> inlineTable (valueOfDepth depth) <|> scalar

/-- Reads a value. -/
def value : Reader Value :=
  valueOfDepth greatestDepth

/-! ## Statements -/

/-- A line that says something. -/
inductive Statement where
  | assign (path : List String) (name : String) (v : Value)
  | openTable (path : List String) (name : String)
  | openElement (path : List String) (name : String)

/-- Reads a header. -/
def header : Reader Statement :=
  (do
    Reader.word "[["
    let (path, name) ← key
    Reader.word "]]"
    return .openElement path name) <|> do
  Reader.word "["
  let (path, name) ← key
  Reader.word "]"
  return .openTable path name

/-- Reads a statement. -/
def statement : Reader Statement :=
  header <|> do
    let ((path, name), v) ← assignment value
    return .assign path name v

/-- Reads a line that says something, or nothing. -/
def line : Reader (Option Statement) := do
  blanks
  (some <$> (statement <* restOfLine)) <|>
    (do
      discard (optional comment)
      lineEnd
      return none)

/-- Reads the last line, which has no end. -/
def lastLine : Reader Unit := do
  blanks
  discard (optional comment)

/-- Reads all lines, and gives their statements. -/
def statements : Reader (List Statement) := do
  let lines ← Reader.many line
  lastLine
  return lines.filterMap id

/-! ## Documents -/

/-- A document in the making. -/
structure Draft where
  /-- The entries of the whole document. -/
  entries : Entries
  /-- The path of the table that is open. -/
  opened : List String

/-- What a statement adds to a document. -/
def Draft.add? (draft : Draft) : Statement → Option Draft
  | .assign path name v =>
    let change := Entries.within false (Entries.assign path name v) draft.opened
    (change .header draft.entries).map fun entries => ⟨entries, draft.opened⟩
  | .openTable path name =>
    (Entries.openTable path name .header draft.entries).map fun entries =>
      ⟨entries, path ++ [name]⟩
  | .openElement path name =>
    (Entries.openElement path name .header draft.entries).map fun entries =>
      ⟨entries, path ++ [name]⟩

theorem Draft.nodup_names_add? {draft draft' : Draft} {statement : Statement}
    (h : draft.add? statement = some draft') (hd : (Entries.names draft.entries).Nodup) :
    (Entries.names draft'.entries).Nodup := by
  cases statement with
  | assign path name v =>
    obtain ⟨entries, he, rfl⟩ := Option.map_eq_some_iff.mp h
    refine Entries.keepsDistinct_within false ?_ draft.opened _ _ _ he hd
    exact Entries.keepsDistinct_assign path name v
  | openTable path name =>
    obtain ⟨entries, he, rfl⟩ := Option.map_eq_some_iff.mp h
    exact Entries.keepsDistinct_openTable path name _ _ _ he hd
  | openElement path name =>
    obtain ⟨entries, he, rfl⟩ := Option.map_eq_some_iff.mp h
    exact Entries.keepsDistinct_openElement path name _ _ _ he hd

theorem Draft.nodup_names_foldlM {statements : List Statement} {draft draft' : Draft}
    (h : statements.foldlM Draft.add? draft = some draft')
    (hd : (Entries.names draft.entries).Nodup) : (Entries.names draft'.entries).Nodup := by
  induction statements generalizing draft with
  | nil =>
    cases h
    exact hd
  | cons statement statements ih =>
    obtain ⟨next, hn, h⟩ := Option.bind_eq_some_iff.mp h
    exact ih h (nodup_names_add? hn hd)

/-- The table of a document.  A mark of the byte order may come first. -/
def read? (text : String) : Option (List (String × Value)) := do
  let cs := (Text.afterFront? ['\ufeff'] text.toList).getD text.toList
  let statements ← statements.run? cs
  let draft ← statements.foldlM Draft.add? ⟨[], []⟩
  return Entries.finish draft.entries

/-- No name of a document stands for two values. -/
theorem nodup_of_read? {text : String} {entries : List (String × Value)}
    (h : read? text = some entries) : (entries.map Prod.fst).Nodup := by
  obtain ⟨statements, -, h⟩ := Option.bind_eq_some_iff.mp h
  obtain ⟨draft, hd, h⟩ := Option.bind_eq_some_iff.mp h
  cases h
  rw [Entries.finish_eq_map, List.map_map]
  exact Draft.nodup_names_foldlM hd .nil

end JdkCatalog.Toml
