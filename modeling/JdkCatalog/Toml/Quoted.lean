import JdkCatalog.Toml.Line

/-!
# Quoted texts

Texts between double quotes have escapes, texts between single quotes have
none.  Between three quotes of either kind a text may have several lines; a
line end right after the opening quotes does not count, and one or two quotes
may stand anywhere in the text, even right before the closing ones.
-/

namespace JdkCatalog.Toml

open Text (Reader)

/-- The value of a hexadecimal digit. -/
def hexValue (c : Char) : Nat :=
  if c.isDigit then c.toNat - '0'.toNat else c.toLower.toNat - 'a'.toNat + 10

/-- A hexadecimal digit. -/
def isHexDigit (c : Char) : Bool :=
  c.isDigit || ('a' ≤ c && c ≤ 'f') || ('A' ≤ c && c ≤ 'F')

/-- The number that digits of a base stand for. -/
def digitsValue (base : Nat) (digits : List Char) : Nat :=
  digits.foldl (fun n c => n * base + hexValue c) 0

/-- Reads the character that a given number of hexadecimal digits stand for,
which is no surrogate. -/
def codePoint (count : Nat) : Reader Char := do
  let n := digitsValue 16 (← Reader.exactly isHexDigit count)
  if n.isValidChar then return Char.ofNat n else failure

/-- Reads an escape. -/
def escape : Reader Char := do
  discard (Reader.char '\\')
  match ← Reader.satisfy fun _ => true with
  | 'b' => return '\x08'
  | 't' => return '\t'
  | 'n' => return '\n'
  | 'f' => return '\x0c'
  | 'r' => return '\r'
  | '"' => return '"'
  | '\\' => return '\\'
  | 'u' => codePoint 4
  | 'U' => codePoint 8
  | _ => failure

/-- Reads a character as itself, unless it is the quote or begins escapes. -/
def verbatim (reserved : List Char) : Reader Char :=
  Reader.satisfy fun c => isPlain c && !reserved.contains c

/-- Reads a text of one line between double quotes. -/
def basicText : Reader String := do
  discard (Reader.char '"')
  let cs ← Reader.many (verbatim ['"', '\\'] <|> escape)
  discard (Reader.char '"')
  return String.ofList cs

/-- Reads a text of one line between single quotes. -/
def literalText : Reader String := do
  discard (Reader.char '\'')
  let cs ← Reader.many (verbatim ['\''])
  discard (Reader.char '\'')
  return String.ofList cs

/-- Reads a backslash at the end of a line, with all blanks and line ends that
follow it. -/
def lineJoin : Reader Unit := do
  discard (Reader.char '\\')
  blanks
  lineEnd
  blanks
  discard (Reader.many (lineEnd *> blanks))

/-- Reads two quotes, or else one, where something stands behind them. -/
def quotesBefore (quote : Char) (next : Reader Unit) : Reader (List Char) :=
  (Reader.exactly (· == quote) 2 <* Reader.ahead next) <|>
    (Reader.exactly (· == quote) 1 <* Reader.ahead next)

/-- Reads a text of several lines between three quotes, given how to read its
parts other than quotes. -/
def lines (quote : Char) (part : Reader (List Char)) : Reader String := do
  let delimiter : Reader Unit := discard (Reader.exactly (· == quote) 3)
  delimiter
  discard (optional lineEnd)
  let parts ← Reader.many (part <|> quotesBefore quote (discard part))
  let quotes ← optional (quotesBefore quote delimiter)
  delimiter
  return String.ofList (parts.flatten ++ quotes.getD [])

/-- Reads a text of several lines between double quotes. -/
def basicLines : Reader String :=
  lines '"' <|
    (List.singleton <$> verbatim ['"', '\\']) <|> (lineJoin *> pure []) <|>
      (List.singleton <$> escape) <|> (lineEnd *> pure ['\n'])

/-- Reads a text of several lines between single quotes. -/
def literalLines : Reader String :=
  lines '\'' <|
    (List.singleton <$> verbatim ['\'']) <|> (lineEnd *> pure ['\n'])

/-- Reads a quoted text of any kind. -/
def quoted : Reader String :=
  basicLines <|> basicText <|> literalLines <|> literalText

end JdkCatalog.Toml
