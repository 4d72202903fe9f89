import JdkCatalog.Json
import JdkCatalog.Text.Utf8

/-!
# Reading JSON

A strict reader of JSON text given as bytes.  Texts that end too early are
told apart from all other malformed texts.  At most 127 arrays and objects
stand inside each other.
-/

namespace JdkCatalog.Json

/-- Why a text is not JSON. -/
inductive Failure where
  /-- The text ended while more was needed. -/
  | endOfText
  /-- Anything else. -/
  | malformed
deriving DecidableEq

/-- Where more was needed, a text either ended or went on wrongly. -/
def refuse {α : Type} : List UInt8 → Except Failure α
  | [] => .error .endOfText
  | _ :: _ => .error .malformed

/-- Space, tab, carriage return and line feed. -/
def isBlankByte (b : UInt8) : Bool :=
  b == 0x20 || b == 0x09 || b == 0x0a || b == 0x0d

/-- The bytes from the first one on that is not blank. -/
def skipBlank (bytes : List UInt8) : List UInt8 :=
  bytes.dropWhile isBlankByte

/-- Reads a word; a text that ends inside it ended too early. -/
def readWord {α : Type} (value : α) :
    (word bytes : List UInt8) → Except Failure (α × List UInt8)
  | [], rest => .ok (value, rest)
  | _ :: _, [] => .error .endOfText
  | w :: word, b :: rest => if w = b then readWord value word rest else .error .malformed

/-! ## Strings -/

/-- The value of a hexadecimal digit. -/
def hexValue? (b : UInt8) : Option Nat :=
  if 0x30 ≤ b && b ≤ 0x39 then some (b.toNat - 0x30)
  else if 0x41 ≤ b && b ≤ 0x46 then some (b.toNat - 0x41 + 10)
  else if 0x61 ≤ b && b ≤ 0x66 then some (b.toNat - 0x61 + 10)
  else none

/-- The value of four hexadecimal digits. -/
def hexUnit? (a b c d : UInt8) : Option Nat := do
  let a ← hexValue? a
  let b ← hexValue? b
  let c ← hexValue? c
  let d ← hexValue? d
  return ((a * 16 + b) * 16 + c) * 16 + d

/-- The character that an escape of one letter stands for. -/
def escaped? (b : UInt8) : Option Char :=
  match Char.ofNat b.toNat with
  | '"' => some '"'
  | '\\' => some '\\'
  | '/' => some '/'
  | 'b' => some '\x08'
  | 'f' => some '\x0c'
  | 'n' => some '\n'
  | 'r' => some '\r'
  | 't' => some '\t'
  | _ => none

/-- Reads a string up to its closing quote, given the bytes of the part read
so far in reverse.  A character beyond 16 bits is escaped as a pair of
surrogates, and no surrogate may stand alone.  An escape needs all its digits
before it is looked at. -/
def readString (taken : List UInt8) : List UInt8 → Except Failure (String × List UInt8)
  | [] => .error .endOfText
  | 0x22 :: rest =>
    match Text.ofUtf8? taken.reverse with
    | some s => .ok (s, rest)
    | none => .error .malformed
  | [0x5c] => .error .endOfText
  | 0x5c :: 0x75 :: a :: b :: c :: d :: rest =>
    match hexUnit? a b c d with
    | none => .error .malformed
    | some unit =>
      if 0xdc00 ≤ unit && unit ≤ 0xdfff then
        .error .malformed
      else if 0xd800 ≤ unit && unit ≤ 0xdbff then
        match rest with
        | 0x5c :: 0x75 :: a' :: b' :: c' :: d' :: rest' =>
          match hexUnit? a' b' c' d' with
          | none => .error .malformed
          | some unit' =>
            if 0xdc00 ≤ unit' && unit' ≤ 0xdfff then
              let c := Char.ofNat (0x10000 + (unit - 0xd800) * 0x400 + (unit' - 0xdc00))
              readString ((String.utf8EncodeChar c).reverse ++ taken) rest'
            else
              .error .malformed
        | 0x5c :: 0x75 :: _ => .error .endOfText
        | 0x5c :: rest' => refuse rest'
        | rest' => refuse rest'
      else
        readString ((String.utf8EncodeChar (Char.ofNat unit)).reverse ++ taken) rest
  | 0x5c :: 0x75 :: _ => .error .endOfText
  | 0x5c :: b :: rest =>
    match escaped? b with
    | none => .error .malformed
    | some c => readString ((String.utf8EncodeChar c).reverse ++ taken) rest
  | b :: rest => if b < 0x20 then .error .malformed else readString (b :: taken) rest

/-! ## Numbers -/

/-- A decimal digit. -/
def isDigitByte (b : UInt8) : Bool :=
  0x30 ≤ b && b ≤ 0x39

/-- Takes digits into a significand while it fits 64 bits, and gives what is
left of them. -/
def absorb (significand : Nat) : List UInt8 → Nat × List UInt8
  | [] => (significand, [])
  | d :: ds =>
    let next := significand * 10 + (d.toNat - 0x30)
    if next < UInt64.size then absorb next ds else (significand, d :: ds)

/-- The power of ten that digits stand for.  No text has as many places as to
make up for one beyond `2 ^ 31`, and the digits after that are left out. -/
def powerOf (ds : List UInt8) : Nat :=
  ds.foldl (fun n d => if n ≤ 1 <<< 31 then n * 10 + (d.toNat - 0x30) else n) 0

/-- Scales a magnitude by a power of ten with one rounded product or quotient.
A very small result takes two quotients and then is zero; beyond the largest
magnitude there is no result. -/
def scale? (x : Number.Binary64) (exponent : Int) : Option Number.Binary64 := do
  if x.significand = 0 then
    return x
  else if 308 < exponent then
    none
  else if 0 ≤ exponent then
    x.mul? (← Number.Binary64.ofRatio? (Nat.pow 10 exponent.toNat) 1)
  else if -308 ≤ exponent then
    x.div? (← Number.Binary64.ofRatio? (Nat.pow 10 (-exponent).toNat) 1)
  else if -616 ≤ exponent then
    let y ← x.div? (← Number.Binary64.ofRatio? (Nat.pow 10 308) 1)
    y.div? (← Number.Binary64.ofRatio? (Nat.pow 10 (-exponent - 308).toNat) 1)
  else
    return Number.Binary64.zero

/-- The double `significand * 10 ^ exponent`. -/
def double (isNegative : Bool) (significand : Nat) (exponent : Int) : Except Failure Numeral :=
  match (Number.Binary64.ofRatio? significand 1).bind (scale? · exponent) with
  | some magnitude => .ok (.double isNegative magnitude)
  | none => .error .malformed

/-- A number without point and exponent. -/
def wholeNumber (isNegative : Bool) (n : Nat) : Except Failure Numeral :=
  if !isNegative then
    .ok (.natural (UInt64.ofNat n))
  else if n ≠ 0 ∧ n ≤ 1 <<< 63 then
    .ok (.negative (Int64.ofInt (-n)))
  else
    double true n 0

/-- Reads the exponent of a number after its `e`, and gives the double. -/
def readExponent (isNegative : Bool) (significand : Nat) (exponent : Int)
    (bytes : List UInt8) : Except Failure (Numeral × List UInt8) := do
  let (isBelow, bytes) :=
    match bytes with
    | 0x2b :: rest => (false, rest)
    | 0x2d :: rest => (true, rest)
    | _ => (false, bytes)
  match bytes.takeWhile isDigitByte with
  | [] => refuse bytes
  | ds =>
    let power : Int := powerOf ds
    let x ← double isNegative significand (exponent + if isBelow then -power else power)
    return (x, bytes.dropWhile isDigitByte)

/-- Reads what follows the whole part and the fraction of a number. -/
def readScaled (isNegative : Bool) (significand : Nat) (exponent : Int)
    (bytes : List UInt8) : Except Failure (Numeral × List UInt8) :=
  match bytes with
  | 0x65 :: rest => readExponent isNegative significand exponent rest
  | 0x45 :: rest => readExponent isNegative significand exponent rest
  | _ => do return (← double isNegative significand exponent, bytes)

/-- Reads a number after its sign.  Only the leading digits that fit 64 bits
count; of the others, those before the point still count as places. -/
def readNumber (isNegative : Bool) (bytes : List UInt8) : Except Failure (Numeral × List UInt8) :=
  match bytes.takeWhile isDigitByte, bytes.dropWhile isDigitByte with
  | [], rest => refuse rest
  | 0x30 :: _ :: _, _ => .error .malformed
  | ds, rest =>
    let (significand, lost) := absorb 0 ds
    match rest with
    | 0x2e :: rest =>
      match rest.takeWhile isDigitByte with
      | [] => refuse rest
      | ds =>
        let (significand', lost') := absorb significand ds
        let places : Int := ds.length - lost'.length
        readScaled isNegative significand' (lost.length - places) (rest.dropWhile isDigitByte)
    | 0x65 :: _ => readScaled isNegative significand lost.length rest
    | 0x45 :: _ => readScaled isNegative significand lost.length rest
    | _ =>
      if lost.isEmpty then
        do return (← wholeNumber isNegative significand, rest)
      else
        readScaled isNegative significand lost.length rest

/-! ## Values -/

/-- Puts a member before others, in place of a first one with the same key. -/
def putFirst (member : String × Json) : List (String × Json) → List (String × Json)
  | [] => [member]
  | first :: members =>
    if first.1 = member.1 then member :: members else member :: first :: members

/-- The object with members that are given in reverse.  They are brought into
the order of their keys, and of several with the same key the last one
counts. -/
def objectOf (reversed : List (String × Json)) : Json :=
  .object ((reversed.mergeSort fun member member' => member.1 ≤ member'.1).foldr putFirst [])

/-- Reads the rest of an array after an element, given the elements so far in
reverse.  An element takes at least one byte, and `fuel` is at least the number
of bytes. -/
def readItems (readItem : List UInt8 → Except Failure (Json × List UInt8)) :
    (fuel : Nat) → (taken : List Json) → List UInt8 → Except Failure (Json × List UInt8)
  | 0, _, _ => .error .malformed
  | fuel + 1, taken, bytes =>
    match skipBlank bytes with
    | 0x5d :: rest => .ok (.array taken.reverse, rest)
    | 0x2c :: rest =>
      match readItem rest with
      | .error e => .error e
      | .ok (item, rest) => readItems readItem fuel (item :: taken) rest
    | rest => refuse rest

/-- Reads a member of an object: a string, a colon and a value. -/
def readMember (readItem : List UInt8 → Except Failure (Json × List UInt8)) (bytes : List UInt8) :
    Except Failure ((String × Json) × List UInt8) :=
  match skipBlank bytes with
  | 0x22 :: rest => do
    let (key, rest) ← readString [] rest
    match skipBlank rest with
    | 0x3a :: rest =>
      let (value, rest) ← readItem rest
      return ((key, value), rest)
    | rest => refuse rest
  | rest => refuse rest

/-- Reads the rest of an object after a member, given the members so far in
reverse.  A member takes at least one byte, and `fuel` is at least the number
of bytes. -/
def readMembers (readItem : List UInt8 → Except Failure (Json × List UInt8)) :
    (fuel : Nat) → (taken : List (String × Json)) → List UInt8 →
      Except Failure (Json × List UInt8)
  | 0, _, _ => .error .malformed
  | fuel + 1, taken, bytes =>
    match skipBlank bytes with
    | 0x7d :: rest => .ok (objectOf taken, rest)
    | 0x2c :: rest =>
      match readMember readItem rest with
      | .error e => .error e
      | .ok (member, rest) => readMembers readItem fuel (member :: taken) rest
    | rest => refuse rest

/-- Reads a value that holds arrays and objects to a given depth, in a text of
at most `fuel` bytes. -/
def readValue (fuel depth : Nat) (bytes : List UInt8) : Except Failure (Json × List UInt8) :=
  match skipBlank bytes with
  | [] => .error .endOfText
  | b :: rest =>
    match Char.ofNat b.toNat with
    | 'n' => readWord null (Text.utf8 "ull") rest
    | 't' => readWord (bool true) (Text.utf8 "rue") rest
    | 'f' => readWord (bool false) (Text.utf8 "alse") rest
    | '"' => do
      let (s, rest) ← readString [] rest
      return (string s, rest)
    | '-' => do
      let (n, rest) ← readNumber true rest
      return (number n, rest)
    | '[' =>
      match depth with
      | 0 => .error .malformed
      | depth + 1 =>
        match skipBlank rest with
        | 0x5d :: rest => .ok (array [], rest)
        | rest => do
          let (item, rest) ← readValue fuel depth rest
          readItems (readValue fuel depth) fuel [item] rest
    | '\x7b' =>
      match depth with
      | 0 => .error .malformed
      | depth + 1 =>
        match skipBlank rest with
        | 0x7d :: rest => .ok (object [], rest)
        | rest => do
          let (member, rest) ← readMember (readValue fuel depth) rest
          readMembers (readValue fuel depth) fuel [member] rest
    | _ =>
      if isDigitByte b then do
        let (n, rest) ← readNumber false (b :: rest)
        return (number n, rest)
      else
        .error .malformed

/-- The value that a text stands for. -/
def read (bytes : List UInt8) : Except Failure Json := do
  let (value, rest) ← readValue bytes.length 127 bytes
  if (skipBlank rest).isEmpty then return value else throw .malformed

end JdkCatalog.Json
