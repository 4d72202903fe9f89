import JdkCatalog.Number.Shortest

/-!
# JSON values

A JSON value, access to its parts, and its compact text.  The members of an
object stand in the order of their keys, each key once; the reader makes them
so.
-/

namespace JdkCatalog

/-- The numbers of JSON as they are kept: whole numbers exactly while they fit
64 bits, and everything else as a binary floating-point number. -/
inductive Json.Numeral where
  | natural (n : UInt64)
  | negative (n : Int64)
  | double (isNegative : Bool) (magnitude : Number.Binary64)
deriving DecidableEq

/-- A JSON value. -/
inductive Json where
  | null
  | bool (b : Bool)
  | number (n : Json.Numeral)
  | string (s : String)
  | array (items : List Json)
  | object (members : List (String × Json))

namespace Json

/-! ## Access -/

/-- The member of an object with a given key. -/
def member? (key : String) : Json → Option Json
  | object members => members.lookup key
  | _ => none

/-- The text of a string. -/
def string? : Json → Option String
  | string s => some s
  | _ => none

/-- The elements of an array. -/
def array? : Json → Option (List Json)
  | array items => some items
  | _ => none

/-- The value of a whole number that is not negative. -/
def natural? : Json → Option UInt64
  | number (.natural n) => some n
  | _ => none

/-- A member that is absent or `null` counts as not given. -/
def given? (key : String) (members : List (String × Json)) : Option Json :=
  match members.lookup key with
  | some null => none
  | value => value

/-! ## Compact text -/

/-- Doubles have the fewest digits that read back, from the middle with an even
last digit; between `1e-5` and `1e16` they are written without an exponent. -/
def Numeral.doubleText (x : Number.Binary64) : String :=
  if x.significand = 0 then
    "0.0"
  else
    let d := x.shortest .toEven
    if -5 ≤ d.leadingExponent ∧ d.leadingExponent < 16 then d.positional else d.scientific

/-- The text of a number. -/
def Numeral.text : Numeral → String
  | natural n => n.toNat.repr
  | negative n => "-" ++ n.toInt.natAbs.repr
  | double isNegative magnitude =>
    (if isNegative then "-" else "") ++ doubleText magnitude

/-- A character of a string as it is written: only the quote, the backslash
and control characters are escaped. -/
def charText (c : Char) : List Char :=
  match c with
  | '"' => ['\\', '"']
  | '\\' => ['\\', '\\']
  | '\n' => ['\\', 'n']
  | '\r' => ['\\', 'r']
  | '\t' => ['\\', 't']
  | '\x08' => ['\\', 'b']
  | '\x0c' => ['\\', 'f']
  | c =>
    if c.toNat < 0x20 then
      ['\\', 'u', '0', '0', Nat.digitChar (c.toNat / 16), Nat.digitChar (c.toNat % 16)]
    else
      [c]

/-- A string between quotes. -/
def stringText (s : String) : String :=
  "\"" ++ String.ofList (s.toList.flatMap charText) ++ "\""

/-- The text of a value, without blanks. -/
def text : Json → String
  | null => "null"
  | bool true => "true"
  | bool false => "false"
  | number n => n.text
  | string s => stringText s
  | array items => "[" ++ ",".intercalate (itemTexts items) ++ "]"
  | object members => "\x7b" ++ ",".intercalate (memberTexts members) ++ "\x7d"
where
  /-- The texts of the elements of an array. -/
  itemTexts : List Json → List String
    | [] => []
    | item :: items => item.text :: itemTexts items
  /-- The texts of the members of an object. -/
  memberTexts : List (String × Json) → List String
    | [] => []
    | (key, value) :: members =>
      (stringText key ++ ":" ++ value.text) :: memberTexts members

theorem text.itemTexts_eq_map (items : List Json) : itemTexts items = items.map text := by
  induction items with
  | nil => rfl
  | cons item items ih => rw [itemTexts, ih, List.map_cons]

end Json

end JdkCatalog
