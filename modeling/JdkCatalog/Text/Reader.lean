import JdkCatalog.Text.Front

/-!
# Readers

A reader takes a value off the front of a text, or refuses the text.  Readers
are put together in sequence, and where the first of two refuses, the other
one is tried from the same place.
-/

namespace JdkCatalog.Text

/-- Takes a value off the front of a text, or refuses the text. -/
abbrev Reader := StateT (List Char) Option

namespace Reader

variable {α : Type}

/-- Reads a character of a class. -/
def satisfy (accepts : Char → Bool) : Reader Char
  | c :: cs => if accepts c then some (c, cs) else none
  | [] => none

/-- Reads a given character. -/
def char (c : Char) : Reader Char :=
  satisfy (· == c)

/-- Reads a given text. -/
def word (front : String) : Reader Unit := fun cs =>
  (afterFront? front.toList cs).map fun rest => ((), rest)

/-- Reads all characters of a class that come first. -/
def span (accepts : Char → Bool) : Reader (List Char) := fun cs =>
  some (cs.takeWhile accepts, cs.dropWhile accepts)

/-- Reads a given number of characters of a class. -/
def exactly (accepts : Char → Bool) : (count : Nat) → Reader (List Char)
  | 0 => return []
  | count + 1 => do
    let c ← satisfy accepts
    return c :: (← exactly accepts count)

/-- Reads a value and stays where it was. -/
def ahead (reader : Reader α) : Reader α := fun cs =>
  (reader cs).map fun (a, _) => (a, cs)

/-- Reads nothing at the end of a text. -/
def atEnd : Reader Unit
  | [] => some ((), [])
  | _ :: _ => none

/-- Reads values one after the other, given those so far in reverse, and at
most as many as there are characters in `fuel`. -/
def upTo (item : Reader α) : (fuel : List Char) → (taken : List α) → Reader (List α)
  | [], taken => return taken.reverse
  | _ :: fuel, taken => fun cs =>
    match item cs with
    | none => some (taken.reverse, cs)
    | some (a, rest) => upTo item fuel (a :: taken) rest

/-- Reads values one after the other, each of which takes something. -/
def many (item : Reader α) : Reader (List α) := fun cs =>
  upTo item cs [] cs

/-- Reads at least one value, with a separator between any two. -/
def separated (separator : Reader Unit) (item : Reader α) : Reader (List α) := do
  let first ← item
  let others ← many (separator *> item)
  return first :: others

/-- The value of a whole text. -/
def run? (reader : Reader α) (cs : List Char) : Option α := do
  let (a, _) ← (reader <* atEnd) cs
  return a

end Reader

end JdkCatalog.Text
