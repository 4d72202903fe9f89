import JdkCatalog.Number.Binary64

/-!
# Shortest decimals

The decimal with the fewest digits that reads back as a given magnitude; of
two such decimals the one nearer to the magnitude.  Where a magnitude is in the
middle between two, the format that is written decides.
-/

namespace JdkCatalog.Number

/-- A decimal `digits * 10 ^ exponent`. -/
structure Decimal where
  /-- The digits as one number. -/
  digits : Nat
  /-- The power of ten. -/
  exponent : Int
deriving DecidableEq

/-- Which of two neighbouring decimals is taken from the middle. -/
inductive Tie where
  /-- The one whose last digit is even. -/
  | toEven
  /-- The greater one. -/
  | up
deriving DecidableEq

namespace Binary64

/-- Everything is compared in quarters of a unit, so that the middles between
neighbouring magnitudes are whole. -/
def quarters (x : Binary64) : Nat :=
  4 * x.units

/-- The middle between a magnitude and the one below it.  Below a power of
two the magnitudes stand twice as close. -/
def lowerMiddle (x : Binary64) : Nat :=
  if x.significand = 1 <<< 52 ∧ x.exponent ≠ 0 then
    (4 * x.significand - 1) <<< x.exponent
  else
    (4 * x.significand - 2) <<< x.exponent

/-- The middle between a magnitude and the one above it. -/
def upperMiddle (x : Binary64) : Nat :=
  (4 * x.significand + 2) <<< x.exponent

/-- A decimal and a count of quarters over one denominator. -/
def overCommon (d : Decimal) (quarters : Nat) : Nat × Nat :=
  ((d.digits * Nat.pow 10 d.exponent.toNat) <<< 1076,
    quarters * Nat.pow 10 (-d.exponent).toNat)

/-- A decimal rounds to a magnitude: it lies between the two middles, which
themselves round to an even significand. -/
def readsBack (x : Binary64) (d : Decimal) : Bool :=
  let (value, lower) := overCommon d x.lowerMiddle
  let (_, upper) := overCommon d x.upperMiddle
  if x.significand % 2 = 0 then
    lower ≤ value && value ≤ upper
  else
    lower < value && value < upper

/-- How far a decimal is from a magnitude, over the denominator that all
decimals of one exponent share. -/
def distance (x : Binary64) (d : Decimal) : Nat :=
  let (value, center) := overCommon d x.quarters
  (value - center) + (center - value)

/-- The decimal with a given exponent that reads back as a magnitude, if
there is one.  If there is, then one of the magnitude's two neighbours is. -/
def onGrid? (x : Binary64) (tie : Tie) (exponent : Int) : Option Decimal :=
  let (unit, center) := overCommon ⟨1, exponent⟩ x.quarters
  let below : Decimal := ⟨center / unit, exponent⟩
  let above : Decimal := ⟨center / unit + 1, exponent⟩
  match x.readsBack below, x.readsBack above with
  | false, false => none
  | true, false => some below
  | false, true => some above
  | true, true =>
    match compare (x.distance below) (x.distance above) with
    | .lt => some below
    | .gt => some above
    | .eq => some (if tie = .toEven ∧ below.digits % 2 = 0 then below else above)

/-- A power of ten beyond a magnitude, by which the search may start. -/
def coarsest (x : Binary64) : Int :=
  let bits := (Nat.log2 x.units : Int) - 1074
  if 0 ≤ bits then bits / 3 + 1 else 1 - -bits / 4

/-- The shortest decimal of a magnitude: the first on ever finer grids. -/
def shortest (x : Binary64) (tie : Tie) : Decimal :=
  ((List.range 100).findSome? fun (step : Nat) => x.onGrid? tie (x.coarsest - step)).getD ⟨0, 0⟩

end Binary64

/-- The digits of a decimal with its point, without an exponent and with at
least one digit on either side of the point. -/
def Decimal.positional (d : Decimal) : String :=
  let digits := Nat.toDigits 10 d.digits
  if 0 ≤ d.exponent then
    String.ofList (digits ++ List.replicate d.exponent.toNat '0' ++ ['.', '0'])
  else
    let places := (-d.exponent).toNat
    let padded := List.replicate (places + 1 - digits.length) '0' ++ digits
    String.ofList (padded.take (padded.length - places) ++ '.' ::
      padded.drop (padded.length - places))

/-- The power of ten of the leading digit. -/
def Decimal.leadingExponent (d : Decimal) : Int :=
  d.exponent + (Nat.toDigits 10 d.digits).length - 1

/-- The leading digit, the others behind a point, and the power of ten with
its sign. -/
def Decimal.scientific (d : Decimal) : String :=
  let digits := Nat.toDigits 10 d.digits
  let fraction := if digits.tail.isEmpty then [] else '.' :: digits.tail
  let power := d.leadingExponent
  String.ofList (digits.take 1 ++ fraction ++ ['e', if power < 0 then '-' else '+']) ++
    power.natAbs.repr

end JdkCatalog.Number
