import JdkCatalog.Proofs.Text.Decimal
import JdkCatalog.Proofs.Text.Runs
import JdkCatalog.Version

/-!
# The numbers of a version

A number is kept by its digits without the zeros in front, and two numbers are
compared by how many digits they have and then digit by digit.  No digits are ever
read as a number, so a number may have any length.  This module says that the
comparison is that of the values.

* `IsStripped` says which digits are kept.  `isStripped_stripZeros` says that the
  digits of a run are brought to that form, `value_stripZeros` that they keep
  their value.  What is kept are the digits that the value is written with
  (`stripZeros_eq_toDigits`), and `value_eq_zero_iff` says when that is zero.
* `compare_stripped` compares them by value.  A longer number without zeros in
  front is the larger one (`value_lt_of_length_lt`), and numbers of one length are
  compared by `Text.compare_ofDigitChars`.
-/

namespace JdkCatalog.Version

/-- The number that digits stand for. -/
def value (digits : List Char) : Nat :=
  Nat.ofDigitChars 10 digits 0

/-- Digits without superfluous zeros in front. -/
structure IsStripped (digits : List Char) : Prop where
  ne_nil : digits ≠ []
  isDigit : ∀ c ∈ digits, c.isDigit = true
  leading : digits.head? = some '0' → digits = ['0']

/-! ## Zeros in front -/

theorem value_cons_zero (digits : List Char) : value ('0' :: digits) = value digits := by
  rw [value, Text.ofDigitChars_cons_zero, Nat.sub_self, Nat.mul_zero, Nat.zero_add, value]

theorem value_dropWhile_zero (digits : List Char) :
    value (digits.dropWhile (· = '0')) = value digits := by
  induction digits with
  | nil => rfl
  | cons c digits ih =>
    by_cases hc : c = '0'
    · rw [List.dropWhile_cons_of_pos (by simpa using hc), ih, hc, value_cons_zero]
    · rw [List.dropWhile_cons_of_neg (by simpa using hc)]

theorem value_stripZeros (digits : List Char) : value (stripZeros digits) = value digits := by
  rw [← value_dropWhile_zero digits, stripZeros]
  split
  next hdrop => rw [hdrop]; rfl
  next hdrop => rfl

theorem isStripped_stripZeros {digits : List Char} (hdigits : ∀ c ∈ digits, c.isDigit = true) :
    IsStripped (stripZeros digits) := by
  rw [stripZeros]
  split
  next =>
    exact {
      ne_nil := List.cons_ne_nil '0' []
      isDigit := List.forall_mem_singleton.mpr rfl
      leading := fun _ => rfl }
  next hne =>
    refine { ne_nil := hne, isDigit := fun c hc => ?_, leading := fun hhead => ?_ }
    · exact hdigits c ((List.dropWhile_sublist _).mem hc)
    · have hnone := Text.noneAhead_dropWhile (p := (· = '0')) digits '0' hhead
      exact absurd rfl (of_decide_eq_false hnone)

/-! ## The comparison -/

/-- What has fewer digits, and no zeros in front of more of them, is smaller. -/
theorem value_lt_of_length_lt {x y : List Char} (hx : IsStripped x) (hy : IsStripped y)
    (hlength : x.length < y.length) : value x < value y := by
  obtain ⟨c, cs, rfl⟩ := List.exists_cons_of_ne_nil hy.ne_nil
  have hzero : c ≠ '0' := by
    rintro rfl
    have hcs : cs = [] := List.tail_eq_of_cons_eq (hy.leading rfl)
    have hpos := List.length_pos_of_ne_nil hx.ne_nil
    simp only [hcs, List.length_singleton] at hlength
    omega
  calc value x
      < 10 ^ x.length := Text.ofDigitChars_lt_pow hx.isDigit
    _ ≤ 10 ^ cs.length := Nat.pow_le_pow_right (by decide) (Nat.le_of_lt_succ hlength)
    _ ≤ value (c :: cs) :=
      Text.pow_length_le_ofDigitChars (hy.isDigit c List.mem_cons_self) hzero

theorem compare_stripped {x y : List Char} (hx : IsStripped x) (hy : IsStripped y) :
    (Ord.compare x.length y.length).then (Ord.compare x y) = Ord.compare (value x) (value y) := by
  rcases Nat.lt_trichotomy x.length y.length with hlength | hlength | hlength
  · rw [Nat.compare_eq_lt.mpr hlength, Nat.compare_eq_lt.mpr (value_lt_of_length_lt hx hy hlength)]
    rfl
  · rw [Nat.compare_eq_eq.mpr hlength, Ordering.eq_then]
    exact (Text.compare_ofDigitChars hx.isDigit hy.isDigit hlength).symm
  · rw [Nat.compare_eq_gt.mpr hlength, Nat.compare_eq_gt.mpr (value_lt_of_length_lt hy hx hlength)]
    rfl

/-- No two texts of digits without zeros in front have one value. -/
theorem IsStripped.eq_of_value_eq {x y : List Char} (hx : IsStripped x) (hy : IsStripped y)
    (hvalue : value x = value y) : x = y := by
  have hcompare := compare_stripped hx hy
  rw [Nat.compare_eq_eq.mpr hvalue, Ordering.then_eq_eq] at hcompare
  exact Std.compare_eq_iff_eq.mp hcompare.2

/-! ## Digits and values -/

theorem isStripped_toDigits (n : Nat) : IsStripped (Nat.toDigits 10 n) where
  ne_nil := Nat.toDigits_ne_nil
  isDigit _ hc := Nat.isDigit_of_mem_toDigits (by decide) (by decide) hc
  leading hhead := by
    rw [Text.eq_zero_of_head?_toDigits hhead]
    rfl

/-- What is kept of a run is how its value is written. -/
theorem stripZeros_eq_toDigits {digits : List Char} (hdigits : ∀ c ∈ digits, c.isDigit = true) :
    stripZeros digits = Nat.toDigits 10 (value digits) := by
  have hvalue : value (Nat.toDigits 10 (value digits)) = value digits :=
    Nat.ofDigitChars_ten_toDigits
  apply (isStripped_stripZeros hdigits).eq_of_value_eq (isStripped_toDigits _)
  rw [value_stripZeros, hvalue]

theorem value_eq_zero_iff {digits : List Char} (hdigits : ∀ c ∈ digits, c.isDigit = true) :
    value digits = 0 ↔ ∀ c ∈ digits, c = '0' := by
  induction digits with
  | nil => simp [value]
  | cons c digits ih =>
    obtain ⟨hc, hrest⟩ := List.forall_mem_cons.mp hdigits
    by_cases hzero : c = '0'
    · subst hzero
      rw [value_cons_zero, ih hrest, List.forall_mem_cons]
      exact (and_iff_right rfl).symm
    · have hpow : 10 ^ digits.length ≤ value (c :: digits) :=
        Text.pow_length_le_ofDigitChars hc hzero
      have hpos : 0 < 10 ^ digits.length := Nat.pow_pos (by decide)
      constructor
      · intro hvalue
        omega
      · intro hzeros
        exact absurd (hzeros c List.mem_cons_self) hzero

end JdkCatalog.Version
