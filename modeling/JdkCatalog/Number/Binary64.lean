/-!
# Binary floating-point magnitudes

The finite values of the 64-bit binary format without their sign.  A
magnitude is `significand * 2 ^ exponent` units, where a unit is the least
positive value, `2 ^ -1074`; so all arithmetic is on natural numbers.
Rounding is to the nearest magnitude, from the middle to the even one, and
gives `none` where that lies beyond the largest.
-/

namespace JdkCatalog.Number

/-- A magnitude in its only normal form: the significand uses all of its 53
bits unless the exponent is already least. -/
structure Binary64 where
  /-- The leading bits. -/
  significand : Nat
  /-- The power of two, over that of the unit. -/
  exponent : Nat
  significand_lt : significand < 1 <<< 53
  exponent_le : exponent ≤ 2045
  normal : 1 <<< 52 ≤ significand ∨ exponent = 0
deriving DecidableEq

namespace Binary64

/-- The magnitude zero. -/
def zero : Binary64 := ⟨0, 0, by decide, by decide, by decide⟩

/-- The magnitude one, `2 ^ 1074` units. -/
def one : Binary64 := ⟨1 <<< 52, 1022, by decide, by decide, by decide⟩

/-- A magnitude in units. -/
def units (x : Binary64) : Nat :=
  x.significand <<< x.exponent

/-- The whole number nearest to `num / den`, the even one of two. -/
def roundDiv (num den : Nat) : Nat :=
  let q := num / den
  let r := num % den
  if 2 * r < den || (2 * r = den && q % 2 = 0) then q else q + 1

/-- The magnitude nearest to `num / den` units. -/
def ofUnits? (num den : Nat) : Option Binary64 :=
  let exponent := Nat.log2 (num / den) - 52
  let rounded := roundDiv num (den <<< exponent)
  let (significand, exponent) :=
    if rounded = 1 <<< 53 then (1 <<< 52, exponent + 1) else (rounded, exponent)
  if h : significand < 1 <<< 53 ∧ exponent ≤ 2045 ∧ (1 <<< 52 ≤ significand ∨ exponent = 0) then
    some ⟨significand, exponent, h.1, h.2.1, h.2.2⟩
  else
    none

/-- The magnitude nearest to `num / den`. -/
def ofRatio? (num den : Nat) : Option Binary64 :=
  ofUnits? (num <<< 1074) den

/-- The magnitude nearest to `digits * 10 ^ exponent`, where a decimal with
far too large or too small an exponent is decided by that alone. -/
def ofDecimal? (digits : Nat) (exponent : Int) : Option Binary64 :=
  let magnitude := (Nat.log2 digits : Int) + 3 * exponent
  if digits = 0 then
    some zero
  else if 0 ≤ exponent then
    if 1024 < magnitude then none else ofRatio? (digits * Nat.pow 10 exponent.toNat) 1
  else if magnitude < -1080 then
    some zero
  else
    ofRatio? digits (Nat.pow 10 (-exponent).toNat)

/-- The product, rounded. -/
def mul? (x y : Binary64) : Option Binary64 :=
  ofUnits? (x.units * y.units) (1 <<< 1074)

/-- The quotient, rounded. -/
def div? (x y : Binary64) : Option Binary64 :=
  ofRatio? x.units y.units

end Binary64

end JdkCatalog.Number
