/-!
# Versions

A version text is compared by its tokens, the maximal runs of ASCII digits
and of ASCII letters; everything else only separates.  Two versions are
compared slot by slot, and where one has run out of tokens its slots count
as the end of the version: a pre-release word comes before the end, another
word after it, and a number after that.
-/

namespace JdkCatalog.Version

/-- The kinds of characters that runs are made of. -/
inductive CharClass where
  | digit
  | letter
  | separator
deriving DecidableEq

/-- The kind of a character. -/
def CharClass.of (c : Char) : CharClass :=
  if c.isDigit then digit else if c.isAlpha then letter else separator

/-- A part of a version that counts. -/
inductive Token where
  /-- A number, by its digits without leading zeros. -/
  | number (digits : List Char)
  /-- A word, by its letters. -/
  | word (letters : List Char)
deriving DecidableEq

/-- The digits without leading zeros; a lone zero is kept. -/
def stripZeros (digits : List Char) : List Char :=
  match digits.dropWhile (· = '0') with
  | [] => ['0']
  | stripped => stripped

/-- The token that a run of characters of one kind stands for. -/
def Token.ofRun? : List Char → Option Token
  | [] => none
  | c :: run =>
    match CharClass.of c with
    | .digit => some (number (stripZeros (c :: run)))
    | .letter => some (word (c :: run))
    | .separator => none

/-- The maximal runs of characters of one kind. -/
def runs (cs : List Char) : List (List Char) :=
  cs.splitBy fun c d => CharClass.of c = CharClass.of d

/-- The tokens of a version, in order. -/
def tokens (version : String) : List Token :=
  (runs version.toList).filterMap Token.ofRun?

/-- Words that mark a version before the release, in lower case. -/
def preReleaseWords : List String :=
  ["ea", "alpha", "beta", "rc", "snapshot", "preview", "pre"]

/-- Words are compared without regard to ASCII case. -/
def foldCase (letters : List Char) : List Char :=
  letters.map Char.toLower

/-- What one slot of a comparison holds: a token, or the end of the
version. -/
abbrev Slot := Option Token

/-- The rank of a slot among slots of other kinds. -/
def Slot.rank : Slot → Nat
  | none => 1
  | some (.number _) => 3
  | some (.word letters) =>
    if preReleaseWords.contains (String.ofList (foldCase letters)) then 0 else 2

/-- The number of digits of a number; nothing else has a length that
counts. -/
def Slot.length : Slot → Nat
  | some (.number digits) => digits.length
  | _ => 0

/-- The characters that decide between slots of one rank. -/
def Slot.content : Slot → List Char
  | none => []
  | some (.number digits) => digits
  | some (.word letters) => foldCase letters

/-- Slots are ordered by rank; numbers then by length and by digits, words by
their letters. -/
def Slot.compare : Slot → Slot → Ordering :=
  compareLex (compareOn rank) (compareLex (compareOn length) (compareOn content))

instance : Std.TransCmp Slot.compare := by
  unfold Slot.compare
  infer_instance

/-- Compares slot by slot up to the longer of two lists of tokens. -/
def compareTokens : List Token → List Token → Ordering
  | [], [] => .eq
  | [], t :: ts => (Slot.compare none (some t)).then (compareTokens [] ts)
  | t :: ts, [] => (Slot.compare (some t) none).then (compareTokens ts [])
  | t :: ts, u :: us => (Slot.compare (some t) (some u)).then (compareTokens ts us)

/-- The order of two versions. -/
def compare (a b : String) : Ordering :=
  compareTokens (tokens a) (tokens b)

end JdkCatalog.Version
