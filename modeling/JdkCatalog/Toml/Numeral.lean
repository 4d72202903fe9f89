import JdkCatalog.Toml.Quoted
import JdkCatalog.Toml.Value

/-!
# Numbers

Between two digits of a number there may be an underscore.
-/

namespace JdkCatalog.Toml

open Text (Reader)

/-- Reads digits, the first one of a class of its own. -/
def digitsAfter (first digit : Char → Bool) : Reader (List Char) := do
  let c ← Reader.satisfy first
  let cs ← Reader.many (Reader.satisfy digit <|> (Reader.char '_' *> Reader.satisfy digit))
  return c :: cs

/-- Reads digits. -/
def digits (digit : Char → Bool) : Reader (List Char) :=
  digitsAfter digit digit

/-- Reads a sign, if there is one, and gives whether it is a minus. -/
def sign : Reader Bool := do
  return (← optional (Reader.char '+' <|> Reader.char '-')) == some '-'

/-- Reads a decimal number with its sign and without superfluous zeros. -/
def decimal : Reader (Bool × List Char) := do
  let isNegative ← sign
  let ds ← digitsAfter (fun c => c.isDigit && c != '0') Char.isDigit <|>
    (List.singleton <$> Reader.char '0')
  return (isNegative, ds)

/-- A number that fits 64 bits. -/
def fitting (n : Int) : Reader Int64 :=
  if Int64.minValue.toInt ≤ n ∧ n ≤ Int64.maxValue.toInt then
    return Int64.ofInt n
  else
    failure

/-- Reads a whole number in another base. -/
def basedInteger (mark : String) (base : Nat) (digit : Char → Bool) : Reader Int64 := do
  Reader.word mark
  fitting (digitsValue base (← digits digit))

/-- Reads a whole number in base ten. -/
def decimalInteger : Reader Int64 := do
  let (isNegative, ds) ← decimal
  let n : Int := digitsValue 10 ds
  fitting (if isNegative then -n else n)

/-- Reads a whole number. -/
def integer : Reader Int64 :=
  basedInteger "0x" 16 isHexDigit <|>
    basedInteger "0o" 8 (fun c => '0' ≤ c && c ≤ '7') <|>
    basedInteger "0b" 2 (fun c => c = '0' || c = '1') <|>
    decimalInteger

/-- Reads an exponent. -/
def exponent : Reader Int := do
  discard (Reader.char 'e' <|> Reader.char 'E')
  let isNegative ← sign
  let n : Int := digitsValue 10 (← digits Char.isDigit)
  return if isNegative then -n else n

/-- Reads a point and the digits after it. -/
def fraction : Reader (List Char) :=
  Reader.char '.' *> digits Char.isDigit

/-- The number nearest to a decimal, which may be too small but not too
large. -/
def nearest (isNegative : Bool) (digits : Nat) (exponent : Int) : Reader Real :=
  match Number.Binary64.ofDecimal? digits exponent with
  | some magnitude => return .finite isNegative magnitude
  | none => if isNegative then return .infinite true else failure

/-- Reads a number with a fraction or an exponent. -/
def finiteReal : Reader Real := do
  let (isNegative, whole) ← decimal
  let places ← optional fraction
  let power ← optional exponent
  if places.isNone && power.isNone then
    failure
  else
    let places := places.getD []
    nearest isNegative (digitsValue 10 (whole ++ places)) (power.getD 0 - places.length)

/-- Reads the name of an infinite number or of none. -/
def namedReal : Reader Real := do
  let isNegative ← sign
  (Reader.word "inf" *> pure (.infinite isNegative)) <|> (Reader.word "nan" *> pure .notANumber)

/-- Reads a floating-point number. -/
def real : Reader Real :=
  finiteReal <|> namedReal

end JdkCatalog.Toml
