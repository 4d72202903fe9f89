import JdkCatalog.Toml.Quoted
import JdkCatalog.Toml.Value

/-!
# Dates and times

Dates and times have a fixed number of digits for each of their parts.
-/

namespace JdkCatalog.Toml

open Text (Reader)

/-- Reads a number of a fixed number of digits, in a range. -/
def fixedNumber (count least greatest : Nat) : Reader Nat := do
  let n := digitsValue 10 (← Reader.exactly Char.isDigit count)
  if least ≤ n ∧ n ≤ greatest then return n else failure

/-- A year with a day more. -/
def isLeapYear (year : Nat) : Bool :=
  year % 4 = 0 && (year % 100 ≠ 0 || year % 400 = 0)

/-- The number of days of a month. -/
def daysOfMonth (year month : Nat) : Nat :=
  if month = 2 then (if isLeapYear year then 29 else 28)
  else if month = 4 ∨ month = 6 ∨ month = 9 ∨ month = 11 then 30
  else 31

/-- Reads a date. -/
def date : Reader Date := do
  let year ← fixedNumber 4 0 9999
  discard (Reader.char '-')
  let month ← fixedNumber 2 1 12
  discard (Reader.char '-')
  let day ← fixedNumber 2 1 (daysOfMonth year month)
  return ⟨year, month, day⟩

/-- Reads a fraction of a second, of which nine digits count. -/
def nanoseconds : Reader Nat := do
  discard (Reader.char '.')
  let first ← Reader.satisfy Char.isDigit
  let ds := (first :: (← Reader.span Char.isDigit)).take 9
  return digitsValue 10 ds * Nat.pow 10 (9 - ds.length)

/-- Reads a time of day.  A minute may have a leap second. -/
def time : Reader Time := do
  let hour ← fixedNumber 2 0 23
  discard (Reader.char ':')
  let minute ← fixedNumber 2 0 59
  discard (Reader.char ':')
  let second ← fixedNumber 2 0 60
  let nanosecond ← optional nanoseconds
  return ⟨hour, minute, second, nanosecond.getD 0⟩

/-- Reads the distance of a clock from the common one, in minutes. -/
def offset : Reader Int :=
  ((Reader.char 'Z' <|> Reader.char 'z') *> pure 0) <|> do
    let direction ← Reader.char '+' <|> Reader.char '-'
    let hours ← fixedNumber 2 0 23
    discard (Reader.char ':')
    let minutes ← fixedNumber 2 0 59
    let distance : Int := 60 * hours + minutes
    return if direction = '-' then -distance else distance

/-- Reads the time that follows a date, and the offset of its clock. -/
def timeAfterDate : Reader (Time × Option Int) := do
  discard (Reader.satisfy fun c => c = 'T' || c = 't' || c = ' ')
  let time ← time
  return (time, ← optional offset)

/-- Reads a date and, if it follows, the time on that day. -/
def dated : Reader Moment := do
  let date ← date
  match ← optional timeAfterDate with
  | none => return .date date
  | some (time, none) => return .local date time
  | some (time, some minutes) => return .global date time minutes

/-- Reads a point in time, or the parts of one. -/
def moment : Reader Moment :=
  dated <|> (Moment.time <$> time)

end JdkCatalog.Toml
