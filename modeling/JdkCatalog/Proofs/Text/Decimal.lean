import Mathlib.Algebra.Order.Ring.Nat
import Mathlib.Data.List.Basic

/-!
# The values of digits

How the value of a text of digits depends on its length and on its digits.

* `ofDigitChars_lt_pow` and `pow_length_le_ofDigitChars` bound the value by powers
  of ten.  The second is about a text that does not start with a zero.
* `compare_ofDigitChars` says that texts of one length are ordered as their values
  are.
* `eq_zero_of_head?_toDigits` is about the digits that a number is written with.
-/

namespace JdkCatalog.Text

/-- The first digit counts the power of ten that the digits after it make room
for. -/
theorem ofDigitChars_cons_zero (c : Char) (cs : List Char) :
    Nat.ofDigitChars 10 (c :: cs) 0 =
      10 ^ cs.length * (c.toNat - '0'.toNat) + Nat.ofDigitChars 10 cs 0 := by
  rw [Nat.ofDigitChars_cons, Nat.ofDigitChars_eq_ofDigitChars_zero, Nat.mul_zero, Nat.zero_add]

theorem toNat_sub_lt_ten {c : Char} (hc : c.isDigit = true) : c.toNat - '0'.toNat < 10 := by
  have hle : c.toNat ≤ '9'.toNat := (Char.isDigit_iff_toNat.mp hc).2
  have hnine : '9'.toNat - '0'.toNat < 10 := by decide
  omega

theorem ofDigitChars_lt_pow {cs : List Char} (hcs : ∀ c ∈ cs, c.isDigit = true) :
    Nat.ofDigitChars 10 cs 0 < 10 ^ cs.length := by
  induction cs with
  | nil => decide
  | cons c cs ih =>
    have hc := toNat_sub_lt_ten (hcs c List.mem_cons_self)
    have hrest := ih fun d hd => hcs d (List.mem_cons_of_mem c hd)
    calc Nat.ofDigitChars 10 (c :: cs) 0
        = 10 ^ cs.length * (c.toNat - '0'.toNat) + Nat.ofDigitChars 10 cs 0 :=
          ofDigitChars_cons_zero c cs
      _ < 10 ^ cs.length * (c.toNat - '0'.toNat) + 10 ^ cs.length := by omega
      _ = 10 ^ cs.length * (c.toNat - '0'.toNat + 1) := (Nat.mul_succ _ _).symm
      _ ≤ 10 ^ cs.length * 10 := Nat.mul_le_mul_left _ hc
      _ = 10 ^ (c :: cs).length := (Nat.pow_succ ..).symm

/-- Digits that do not start with a zero have at least the value of the power of
ten that the other digits make room for. -/
theorem pow_length_le_ofDigitChars {c : Char} {cs : List Char} (hc : c.isDigit = true)
    (hzero : c ≠ '0') : 10 ^ cs.length ≤ Nat.ofDigitChars 10 (c :: cs) 0 := by
  have hpos : 1 ≤ c.toNat - '0'.toNat := by
    have hle : '0'.toNat ≤ c.toNat := (Char.isDigit_iff_toNat.mp hc).1
    have hne : c.toNat ≠ '0'.toNat := fun h => hzero (Char.toNat_inj.mp h)
    omega
  calc 10 ^ cs.length
      ≤ 10 ^ cs.length * (c.toNat - '0'.toNat) := Nat.le_mul_of_pos_right _ hpos
    _ ≤ 10 ^ cs.length * (c.toNat - '0'.toNat) + Nat.ofDigitChars 10 cs 0 := Nat.le_add_right _ _
    _ = Nat.ofDigitChars 10 (c :: cs) 0 := (ofDigitChars_cons_zero c cs).symm

/-! ## Digits of one length -/

/-- Of numbers in two places, the place in front decides if it differs. -/
theorem compare_mul_add {b m n k l : Nat} (hk : k < b) (hl : l < b) :
    compare (b * m + k) (b * n + l) = (compare m n).then (compare k l) := by
  have below {m n k l : Nat} (hmn : m < n) (hk : k < b) : b * m + k < b * n + l := by
    have hmul : b * (m + 1) ≤ b * n := Nat.mul_le_mul_left b hmn
    rw [Nat.mul_succ] at hmul
    omega
  rcases Nat.lt_trichotomy m n with hmn | rfl | hmn
  · rw [Nat.compare_eq_lt.mpr (below hmn hk), Nat.compare_eq_lt.mpr hmn]
    rfl
  · rw [Nat.compare_eq_eq.mpr rfl, Ordering.eq_then]
    rcases Nat.lt_trichotomy k l with hkl | rfl | hkl
    · rw [Nat.compare_eq_lt.mpr hkl, Nat.compare_eq_lt.mpr (by omega)]
    · rw [Nat.compare_eq_eq.mpr rfl, Nat.compare_eq_eq.mpr rfl]
    · rw [Nat.compare_eq_gt.mpr hkl, Nat.compare_eq_gt.mpr (by omega)]
  · rw [Nat.compare_eq_gt.mpr (below hmn hl), Nat.compare_eq_gt.mpr hmn]
    rfl

/-- Digits are ordered as the numbers that they stand for. -/
theorem compare_toNat_sub {c d : Char} (hc : c.isDigit = true) (hd : d.isDigit = true) :
    compare (c.toNat - '0'.toNat) (d.toNat - '0'.toNat) = compare c d := by
  have hczero : '0'.toNat ≤ c.toNat := (Char.isDigit_iff_toNat.mp hc).1
  have hdzero : '0'.toNat ≤ d.toNat := (Char.isDigit_iff_toNat.mp hd).1
  have ofLt {c d : Char} (h : compare c d = .lt) : c.toNat < d.toNat :=
    compareOfLessAndEq_eq_lt (x := c).mp h
  cases hcd : compare c d with
  | lt =>
    have hless := ofLt hcd
    exact Nat.compare_eq_lt.mpr (by omega)
  | eq =>
    rw [Std.compare_eq_iff_eq.mp hcd]
    exact Nat.compare_eq_eq.mpr rfl
  | gt =>
    have hless := ofLt (Std.OrientedCmp.lt_of_gt hcd)
    exact Nat.compare_eq_gt.mpr (by omega)

theorem compare_ofDigitChars {xs ys : List Char} (hxs : ∀ c ∈ xs, c.isDigit = true)
    (hys : ∀ c ∈ ys, c.isDigit = true) (hlength : xs.length = ys.length) :
    compare (Nat.ofDigitChars 10 xs 0) (Nat.ofDigitChars 10 ys 0) = compare xs ys := by
  induction xs generalizing ys with
  | nil =>
    rw [List.length_eq_zero_iff.mp hlength.symm]
    rfl
  | cons c xs ih =>
    obtain ⟨d, ys, rfl⟩ := List.exists_cons_of_length_eq_add_one hlength.symm
    have hlength : xs.length = ys.length := Nat.succ.inj hlength
    have hxs' : ∀ e ∈ xs, e.isDigit = true := fun e he => hxs e (List.mem_cons_of_mem c he)
    have hys' : ∀ e ∈ ys, e.isDigit = true := fun e he => hys e (List.mem_cons_of_mem d he)
    have hxs_lt := ofDigitChars_lt_pow hxs'
    have hys_lt := ofDigitChars_lt_pow hys'
    rw [← hlength] at hys_lt
    rw [ofDigitChars_cons_zero, ofDigitChars_cons_zero, ← hlength, compare_mul_add hxs_lt hys_lt,
      compare_toNat_sub (hxs c List.mem_cons_self) (hys d List.mem_cons_self),
      ih hxs' hys' hlength, List.compare_cons_cons]

/-! ## The digits of a number -/

/-- Only the digits of zero start with a zero. -/
theorem eq_zero_of_head?_toDigits {n : Nat} (h : (Nat.toDigits 10 n).head? = some '0') :
    n = 0 := by
  induction n using Nat.strongRecOn with
  | _ n ih =>
    rw [Nat.toDigits_eq_if (by decide)] at h
    split at h
    next hlt =>
      have hdigit : Nat.digitChar n = '0' := Option.some.inj h
      have hzero : ∀ d < 10, Nat.digitChar d = '0' → d = 0 := by decide
      exact hzero n hlt hdigit
    next hge =>
      rw [List.head?_append_of_ne_nil _ Nat.toDigits_ne_nil] at h
      have hzero := ih (n / 10) (by omega) h
      omega

end JdkCatalog.Text
