import JdkCatalog.Proofs.Version.MaximalRuns
import JdkCatalog.Proofs.Version.Suffix

/-!
# Numbers count by their values

The numbers in versions are never computed.  Their digits are compared as bytes, after
the zeros in front are gone: the longer number is the larger one, and among numbers of
one length the first byte that differs decides.  This module says that a comparison of
versions comes out as if the numbers had been computed, however long they are.

* `compareBytes` is the comparison of the digits as bytes, and `compareBytes_eq` says
  that slots with numbers are compared in this way.
* `Slot.compare_stripZeros` says that two numbers are in the order of their values, and
  `Slot.compare_ofRun?` says so of the runs that they come from.
* `MaximalRun.tokensOf_number` finds a number among the tokens of a version, and
  `compare_of_maximalRuns` compares two versions with numbers in them.
* `compare_by_value` puts them together with what the token of a run is, and with the
  runs of zeros.
-/

namespace JdkCatalog.Version

/-! ## Digits as bytes -/

/-- The longer text comes after the shorter one, and texts of one length are in the
order of their bytes. -/
def compareBytes (x y : List Char) : Ordering :=
  (Ord.compare (Text.bytesOf x).length (Text.bytesOf y).length).then
    (Ord.compare (Text.bytesOf x) (Text.bytesOf y))

theorem Slot.compare_number (x y : List Char) :
    Slot.compare (some (.number x)) (some (.number y)) =
      (Ord.compare x.length y.length).then (Ord.compare x y) :=
  rfl

theorem compareBytes_eq {x y : List Char} (hx : ∀ c ∈ x, c.isDigit = true)
    (hy : ∀ c ∈ y, c.isDigit = true) :
    compareBytes x y = Slot.compare (some (.number x)) (some (.number y)) := by
  have hxascii : ∀ c ∈ x, c.toNat < 0x80 := fun c hc => (Text.isVisible_of_isDigit (hx c hc)).high
  have hyascii : ∀ c ∈ y, c.toNat < 0x80 := fun c hc => (Text.isVisible_of_isDigit (hy c hc)).high
  rw [compareBytes, Slot.compare_number, Text.length_bytesOf_of_ascii hxascii,
    Text.length_bytesOf_of_ascii hyascii, Text.compare_bytesOf_of_ascii hxascii hyascii]

/-! ## Runs of digits -/

section Runs

variable {x y : List Char} (hx : x ≠ []) (hxdigits : ∀ c ∈ x, c.isDigit = true) (hy : y ≠ [])
  (hydigits : ∀ c ∈ y, c.isDigit = true)

include hxdigits hydigits

theorem Slot.compare_stripZeros :
    Slot.compare (some (.number (stripZeros x))) (some (.number (stripZeros y))) =
      Ord.compare (value x) (value y) := by
  rw [Slot.compare_number,
    compare_stripped (isStripped_stripZeros hxdigits) (isStripped_stripZeros hydigits),
    value_stripZeros, value_stripZeros]

theorem compareBytes_stripZeros :
    compareBytes (stripZeros x) (stripZeros y) = Ord.compare (value x) (value y) := by
  rw [compareBytes_eq (isStripped_stripZeros hxdigits).isDigit
    (isStripped_stripZeros hydigits).isDigit, Slot.compare_stripZeros hxdigits hydigits]

include hx hy

/-- The tokens of two runs of digits are in the order of their values. -/
theorem Slot.compare_ofRun? :
    Slot.compare (Token.ofRun? x) (Token.ofRun? y) = Ord.compare (value x) (value y) := by
  rw [Token.ofRun?_of_isDigit hx hxdigits, Token.ofRun?_of_isDigit hy hydigits,
    Slot.compare_stripZeros hxdigits hydigits]

/-- Zeros alone tie with zeros alone, and every other number is after them. -/
theorem Slot.compare_ofRun?_zeros (hzeros : ∀ c ∈ x, c = '0') :
    (Slot.compare (Token.ofRun? x) (Token.ofRun? y) = .eq ↔ ∀ c ∈ y, c = '0') ∧
      (Slot.compare (Token.ofRun? x) (Token.ofRun? y) = .lt ↔ 0 < value y) := by
  have hvalue : value x = 0 := (value_eq_zero_iff hxdigits).mpr hzeros
  rw [Slot.compare_ofRun? hx hxdigits hy hydigits, hvalue, Nat.compare_eq_eq, Nat.compare_eq_lt,
    ← value_eq_zero_iff hydigits]
  exact ⟨eq_comm, Iff.rfl⟩

end Runs

/-! ## Versions with numbers in them -/

theorem MaximalRun.isDigit {cs front run rest : List Char}
    (h : MaximalRun cs .digit front run rest) : ∀ c ∈ run, c.isDigit = true :=
  fun c hc => CharClass.of_eq_digit_iff.mp (h.isKind c hc)

theorem MaximalRun.tokensOf_number {cs front run rest : List Char}
    (h : MaximalRun cs .digit front run rest) :
    tokensOf cs = tokensOf front ++ .number (stripZeros run) :: tokensOf rest := by
  rw [h.tokensOf_eq, Token.ofRun?_of_isDigit h.ne_nil h.isDigit]
  rfl

/-- A text of digits is a maximal run of itself. -/
theorem maximalRun_of_isDigit {digits : List Char} (hne : digits ≠ [])
    (hdigits : ∀ c ∈ digits, c.isDigit = true) : MaximalRun digits .digit [] digits [] where
  text_eq := (List.append_nil digits).symm
  ne_nil := hne
  isKind c hc := CharClass.of_eq_digit_iff.mpr (hdigits c hc)
  start := by simp
  finish := by simp

/-- Where two versions come to compare numbers, the values decide, unless what is in
front of the numbers has decided already. -/
theorem compare_of_maximalRuns {a b : String} {front x rest front' y rest' : List Char}
    (ha : MaximalRun a.toList .digit front x rest)
    (hb : MaximalRun b.toList .digit front' y rest')
    (hfront : (tokensOf front).length = (tokensOf front').length) :
    Version.compare a b =
      (compareTokens (tokensOf front) (tokensOf front')).then
        ((Ord.compare (value x) (value y)).then
          (compareTokens (tokensOf rest) (tokensOf rest'))) := by
  change compareTokens (tokensOf a.toList) (tokensOf b.toList) = _
  rw [ha.tokensOf_number, hb.tokensOf_number, compareTokens_append_append hfront, compareTokens,
    Slot.compare_stripZeros ha.isDigit hb.isDigit]

/-- Numbers are compared by their values, whatever their length.  The token of a run of
digits has the digits that its value is written with, and both the slots and the bytes
of two such tokens are in the order of the values.  So are the numbers as versions, and
wherever two versions have them after equally many tokens.  Zeros alone tie with zeros
alone, and every other number is after them. -/
theorem compare_by_value {x y : List Char} (hx : x ≠ []) (hxdigits : ∀ c ∈ x, c.isDigit = true)
    (hy : y ≠ []) (hydigits : ∀ c ∈ y, c.isDigit = true) :
    Token.ofRun? x = some (.number (Nat.toDigits 10 (value x))) ∧
    Slot.compare (Token.ofRun? x) (Token.ofRun? y) = Ord.compare (value x) (value y) ∧
    compareBytes (stripZeros x) (stripZeros y) = Ord.compare (value x) (value y) ∧
    Version.compare (String.ofList x) (String.ofList y) = Ord.compare (value x) (value y) ∧
    (∀ (a b : String) (front rest front' rest' : List Char),
      MaximalRun a.toList .digit front x rest → MaximalRun b.toList .digit front' y rest' →
      (tokensOf front).length = (tokensOf front').length →
      Version.compare a b =
        (compareTokens (tokensOf front) (tokensOf front')).then
          ((Ord.compare (value x) (value y)).then
            (compareTokens (tokensOf rest) (tokensOf rest')))) ∧
    ((∀ c ∈ x, c = '0') →
      (Slot.compare (Token.ofRun? x) (Token.ofRun? y) = .eq ↔ ∀ c ∈ y, c = '0') ∧
      (Slot.compare (Token.ofRun? x) (Token.ofRun? y) = .lt ↔ 0 < value y)) := by
  refine ⟨?token, Slot.compare_ofRun? hx hxdigits hy hydigits,
    compareBytes_stripZeros hxdigits hydigits, ?numbers,
    fun _ _ _ _ _ _ => compare_of_maximalRuns,
    Slot.compare_ofRun?_zeros hx hxdigits hy hydigits⟩
  case token => rw [Token.ofRun?_of_isDigit hx hxdigits, stripZeros_eq_toDigits hxdigits]
  case numbers =>
    have ha : MaximalRun (String.ofList x).toList .digit [] x [] := by
      rw [String.toList_ofList]
      exact maximalRun_of_isDigit hx hxdigits
    have hb : MaximalRun (String.ofList y).toList .digit [] y [] := by
      rw [String.toList_ofList]
      exact maximalRun_of_isDigit hy hydigits
    have hnil : compareTokens (tokensOf []) (tokensOf []) = .eq := Std.ReflCmp.compare_self
    rw [compare_of_maximalRuns ha hb rfl, hnil, Ordering.eq_then, Ordering.then_eq]

/-- A number that has outgrown 64 bits is after the largest one that has not.  Zeros tie,
however many there are, and are before it. -/
theorem compare_twoPow64 :
    MaximalRun "11.0018446744073709551616-ea".toList .digit "11.".toList
      "0018446744073709551616".toList "-ea".toList ∧
    MaximalRun "11+18446744073709551615".toList .digit "11+".toList
      "18446744073709551615".toList [] ∧
    Version.compare "11.0018446744073709551616-ea" "11+18446744073709551615" = .gt ∧
    Slot.compare (Token.ofRun? "000".toList) (Token.ofRun? "0".toList) = .eq ∧
    Slot.compare (Token.ofRun? "000".toList) (Token.ofRun? "0018446744073709551616".toList) =
      .lt := by
  have hx : ∀ c ∈ "0018446744073709551616".toList, c.isDigit = true :=
    List.all_eq_true.mp (by decide)
  have hy : ∀ c ∈ "18446744073709551615".toList, c.isDigit = true :=
    List.all_eq_true.mp (by decide)
  have hz : ∀ c ∈ "000".toList, c.isDigit = true := List.all_eq_true.mp (by decide)
  have hzeros : ∀ c ∈ "000".toList, c = '0' := fun _ => List.eq_of_mem_replicate (n := 3)
  have ha : MaximalRun "11.0018446744073709551616-ea".toList .digit "11.".toList
      "0018446744073709551616".toList "-ea".toList := {
    text_eq := by decide
    ne_nil := by decide
    isKind c hc := CharClass.of_eq_digit_iff.mpr (hx c hc)
    start := by rintro c ⟨rfl⟩; decide
    finish := by rintro c ⟨rfl⟩; decide }
  have hb : MaximalRun "11+18446744073709551615".toList .digit "11+".toList
      "18446744073709551615".toList [] := {
    text_eq := by decide
    ne_nil := by decide
    isKind c hc := CharClass.of_eq_digit_iff.mpr (hy c hc)
    start := by rintro c ⟨rfl⟩; decide
    finish := by simp }
  refine ⟨ha, hb, ?versions, ?zeros, ?positive⟩
  case versions =>
    have hnumbers := compare_by_value ha.ne_nil hx hb.ne_nil hy
    have hfront : tokensOf "11.".toList = tokensOf "11+".toList := by decide
    have htie : compareTokens (tokensOf "11+".toList) (tokensOf "11+".toList) = .eq :=
      Std.ReflCmp.compare_self
    have hvalue : Ord.compare (value "0018446744073709551616".toList)
        (value "18446744073709551615".toList) = .gt := by decide
    rw [hnumbers.2.2.2.2.1 _ _ _ _ _ _ ha hb (by rw [hfront]), hfront, htie, hvalue]
    rfl
  case zeros =>
    have hzero : ∀ c ∈ "0".toList, c.isDigit = true := List.forall_mem_singleton.mpr rfl
    have hcompare := compare_by_value (by decide) hz (by decide) hzero
    exact (hcompare.2.2.2.2.2 hzeros).1.mpr (List.forall_mem_singleton.mpr rfl)
  case positive =>
    have hcompare := compare_by_value (by decide) hz ha.ne_nil hx
    exact (hcompare.2.2.2.2.2 hzeros).2.mpr (by decide)

end JdkCatalog.Version
