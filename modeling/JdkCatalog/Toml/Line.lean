import JdkCatalog.Text.Reader

/-!
# Lines and blanks

What stands between the parts of a TOML document: blanks, comments, and the
ends of lines.
-/

namespace JdkCatalog.Toml

open Text (Reader)

/-- Space and tab. -/
def isBlank (c : Char) : Bool :=
  c = ' ' || c = '\t'

/-- The characters that stand for themselves almost everywhere: the tab, and
all that are no control characters. -/
def isPlain (c : Char) : Bool :=
  c = '\t' || (0x20 ≤ c.toNat && c.toNat ≠ 0x7f)

/-- Skips blanks. -/
def blanks : Reader Unit := do
  discard (Reader.span isBlank)

/-- Reads the end of a line. -/
def lineEnd : Reader Unit :=
  Reader.word "\n" <|> Reader.word "\r\n"

/-- Reads a comment up to the end of its line. -/
def comment : Reader Unit := do
  discard (Reader.char '#')
  discard (Reader.span isPlain)

/-- Reads the rest of a line after a statement. -/
def restOfLine : Reader Unit := do
  blanks
  discard (optional comment)
  lineEnd <|> Reader.atEnd

/-- Skips blanks, comments and the ends of lines. -/
def gaps : Reader Unit := do
  blanks
  discard (Reader.many ((optional comment *> lineEnd) *> blanks))

end JdkCatalog.Toml
