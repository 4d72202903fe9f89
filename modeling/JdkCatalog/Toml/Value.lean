import JdkCatalog.Number.Shortest

/-!
# TOML values

The values of a TOML document.  The entries of a table stand in the order in
which the document has them.
-/

namespace JdkCatalog.Toml

/-- A floating-point number. -/
inductive Real where
  | finite (isNegative : Bool) (magnitude : Number.Binary64)
  | infinite (isNegative : Bool)
  | notANumber
deriving DecidableEq

/-- The text of a number: the fewest digits that read back, from the middle the
greater, never with an exponent. -/
def Real.text : Real → String
  | finite isNegative magnitude =>
    (if isNegative then "-" else "") ++
      (if magnitude.significand = 0 then "0.0" else (magnitude.shortest .up).positional)
  | infinite isNegative => if isNegative then "-inf" else "inf"
  | notANumber => "NaN"

/-- A day of a year. -/
structure Date where
  year : Nat
  month : Nat
  day : Nat
deriving DecidableEq

/-- A time of day. -/
structure Time where
  hour : Nat
  minute : Nat
  second : Nat
  nanosecond : Nat
deriving DecidableEq

/-- A point in time, or the parts of one. -/
inductive Moment where
  | date (date : Date)
  | time (time : Time)
  | local (date : Date) (time : Time)
  | global (date : Date) (time : Time) (minutesEast : Int)
deriving DecidableEq

/-- A TOML value. -/
inductive Value where
  | string (s : String)
  | integer (n : Int64)
  | real (x : Real)
  | boolean (b : Bool)
  | moment (m : Moment)
  | array (items : List Value)
  | table (entries : List (String × Value))

end JdkCatalog.Toml
