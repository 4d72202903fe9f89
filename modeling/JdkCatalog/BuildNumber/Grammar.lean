import JdkCatalog.BuildNumber
import JdkCatalog.Text.Blank
import JdkCatalog.Text.Front

/-!
# Reading build numbers

    build     := [code '-'] component ('.' component)*
    code      := letter+
    component := 'SNAPSHOT' | '*' | numeral

A numeral is `0` or starts with another digit, and its value fits 32 bits, so
that it has at most ten digits; a longer run of digits is no component at all.
Blank characters around the text are ignored.  A text that is refused is
reported with the place where reading stopped.
-/

namespace JdkCatalog.BuildNumber

/-- Why reading stopped. -/
inductive Stop where
  /-- There is no first component. -/
  | noComponent
  /-- Something follows the last component. -/
  | trailing

/-- What is reported there. -/
def Stop.reason : Stop → String
  | noComponent => "expected build component"
  | trailing => ""

/-- A text that is not a build number. -/
structure Malformed where
  /-- The text as it was given. -/
  input : String
  /-- How many bytes of the trimmed text were read. -/
  offset : Nat
  /-- Why no more was read. -/
  stop : Stop

/-- A component at the front of a text, and what follows it. -/
def readComponent? (cs : List Char) : Option (UInt32 × List Char) :=
  match Text.afterFront? "SNAPSHOT".toList cs with
  | some rest => some (snapshot, rest)
  | none =>
    match cs with
    | [] => none
    | '*' :: rest => some (snapshot, rest)
    | '0' :: rest => some (0, rest)
    | c :: rest =>
      if c.isDigit then
        let digits := c :: rest.takeWhile Char.isDigit
        if digits.length ≤ 10 && Nat.ofDigitChars 10 digits 0 < UInt32.size then
          some (UInt32.ofNat (Nat.ofDigitChars 10 digits 0), rest.dropWhile Char.isDigit)
        else
          none
      else
        none

theorem length_of_readComponent? {cs rest : List Char} {n : UInt32}
    (h : readComponent? cs = some (n, rest)) : rest.length < cs.length := by
  unfold readComponent? at h
  split at h
  next r hr =>
    rw [Text.afterFront?_eq_some_iff] at hr
    simp only [Option.some.injEq, Prod.mk.injEq] at h
    simp [hr, ← h.2]
    omega
  next =>
    split at h
    · simp at h
    · simp_all
    · simp_all
    · split at h
      · dsimp only at h
        split at h
        · simp only [Option.some.injEq, Prod.mk.injEq] at h
          rw [← h.2, List.length_cons]
          exact Nat.lt_succ_of_le (List.dropWhile_sublist _).length_le
        · simp at h
      · simp at h

/-- The components that follow the first one, each after a dot, and what
follows them.  A dot without a component after it is left. -/
def readComponents (cs : List Char) : List UInt32 × List Char :=
  match cs with
  | '.' :: body =>
    match h : readComponent? body with
    | some (n, rest) =>
      have : rest.length < body.length + 1 :=
        Nat.lt_succ_of_lt (length_of_readComponent? h)
      let (ns, rest) := readComponents rest
      (n :: ns, rest)
    | none => ([], cs)
  | _ => ([], cs)
termination_by cs.length

/-- The product code that a dash ends at the front of a text, and what
follows the dash; no code and the whole text where there is none. -/
def readCode (cs : List Char) : Option ProductCode × List Char :=
  match ProductCode.ofText? (String.ofList (cs.takeWhile Char.isAlpha)),
      cs.dropWhile Char.isAlpha with
  | some code, '-' :: rest => (some code, rest)
  | _, _ => (none, cs)

/-- The build number that a text stands for.  Up to the place where reading
stops the text is ASCII, so that characters count as bytes. -/
def parse (input : String) : Except Malformed BuildNumber :=
  let cs := Text.trim input.toList
  let (code, body) := readCode cs
  match readComponent? body with
  | none => .error ⟨input, cs.length - body.length, .noComponent⟩
  | some (n, rest) =>
    let (ns, rest) := readComponents rest
    if rest.isEmpty then
      .ok ⟨code, n :: ns, List.cons_ne_nil n ns⟩
    else
      .error ⟨input, cs.length - rest.length, .trailing⟩

namespace Malformed

/-- The caret under the place where reading stopped, and the reason. -/
def pointer (e : Malformed) : String :=
  String.ofList (List.replicate e.offset ' ') ++ "^\n" ++ e.stop.reason

/-- The trimmed text over the caret; of a text of several lines the first
one, in a frame with its line number. -/
def detail (e : Malformed) : String :=
  let cs := Text.trim e.input.toList
  if cs.contains '\n' then
    "parse error at line 1, column " ++ (e.offset + 1).repr ++ "\n  |\n1 | " ++
      String.ofList (cs.takeWhile (· != '\n')) ++ "\n  | " ++ e.pointer
  else
    String.ofList cs ++ "\n" ++ e.pointer

/-- The wording of the error. -/
def message (e : Malformed) : String :=
  "invalid build number '" ++ e.input ++ "': " ++ e.detail

end Malformed

end JdkCatalog.BuildNumber
