/-!
# Letters

Which characters are letters, by their codes, and what putting the letters of a text in
lower case does to it.  The second comes down to `toLower_cases`: a letter in upper case
becomes one in lower case, and any other character stays as it is.

No single file of Mathlib has the lemmas on the case of characters, so they are stated
here.
-/

namespace JdkCatalog.Text

/-! ## Codes of letters -/

theorem isUpper_iff_toNat {c : Char} : c.isUpper = true ↔ 65 ≤ c.toNat ∧ c.toNat ≤ 90 :=
  decide_eq_true_iff

theorem isLower_iff_toNat {c : Char} : c.isLower = true ↔ 97 ≤ c.toNat ∧ c.toNat ≤ 122 := by
  show (decide (97 ≤ c.toNat) && decide (c.toNat ≤ 122)) = true ↔ _
  rw [Bool.and_eq_true, decide_eq_true_iff, decide_eq_true_iff]

theorem isAlpha_iff_toNat {c : Char} :
    c.isAlpha = true ↔ (65 ≤ c.toNat ∧ c.toNat ≤ 90) ∨ (97 ≤ c.toNat ∧ c.toNat ≤ 122) := by
  rw [← isUpper_iff_toNat, ← isLower_iff_toNat]
  exact Bool.or_eq_true_iff

theorem isAlpha_of_isUpper {c : Char} (hc : c.isUpper = true) : c.isAlpha = true :=
  Bool.or_eq_true_iff.mpr (.inl hc)

theorem isDigit_eq_false_of_isAlpha {c : Char} (hc : c.isAlpha = true) : c.isDigit = false := by
  have hrange := isAlpha_iff_toNat.mp hc
  refine Bool.eq_false_iff.mpr fun hdigit => ?_
  have hdigits : 48 ≤ c.toNat ∧ c.toNat ≤ 57 := Char.isDigit_iff_toNat.mp hdigit
  omega

/-! ## Lower case -/

theorem toNat_toLower_of_isUpper {c : Char} (hc : c.isUpper = true) :
    c.toLower.toNat = c.toNat + 32 := by
  have hrange := isUpper_iff_toNat.mp hc
  have hshift : c.toLower.toNat = (c.toNat + 32) % 2 ^ 32 :=
    congrArg Char.toNat (dif_pos (of_decide_eq_true hc))
  rw [hshift]
  exact Nat.mod_eq_of_lt (by omega)

theorem toLower_cases (c : Char) :
    c.isUpper = true ∧ c.toLower.isLower = true ∨ c.isUpper = false ∧ c.toLower = c := by
  by_cases hupper : c.isUpper = true
  · have hrange := isUpper_iff_toNat.mp hupper
    refine .inl ⟨hupper, isLower_iff_toNat.mpr ?_⟩
    rw [toNat_toLower_of_isUpper hupper]
    omega
  · refine .inr ⟨Bool.not_eq_true _ ▸ hupper, ?_⟩
    exact dif_neg fun h => hupper (decide_eq_true h)

theorem isUpper_toLower (c : Char) : c.toLower.isUpper = false := by
  rcases toLower_cases c with ⟨-, hlower⟩ | ⟨hupper, hsame⟩
  · have hrange := isLower_iff_toNat.mp hlower
    refine Bool.eq_false_iff.mpr fun hupper => ?_
    have hupperRange := isUpper_iff_toNat.mp hupper
    omega
  · rw [hsame, hupper]

theorem toLower_eq_self_iff {c : Char} : c.toLower = c ↔ c.isUpper = false := by
  constructor
  · intro h
    rw [← h]
    exact isUpper_toLower c
  · intro h
    rcases toLower_cases c with ⟨hupper, -⟩ | ⟨-, hsame⟩
    · cases hupper.symm.trans h
    · exact hsame

theorem toLower_toLower (c : Char) : c.toLower.toLower = c.toLower :=
  toLower_eq_self_iff.mpr (isUpper_toLower c)

theorem isAlpha_toLower (c : Char) : c.toLower.isAlpha = c.isAlpha := by
  rcases toLower_cases c with ⟨hupper, hlower⟩ | ⟨-, hsame⟩
  · show (c.toLower.isUpper || c.toLower.isLower) = (c.isUpper || c.isLower)
    rw [hupper, hlower, Bool.or_true, Bool.true_or]
  · rw [hsame]

theorem isDigit_toLower (c : Char) : c.toLower.isDigit = c.isDigit := by
  rcases toLower_cases c with ⟨hupper, -⟩ | ⟨-, hsame⟩
  · have hletter := isAlpha_of_isUpper hupper
    rw [isDigit_eq_false_of_isAlpha hletter,
      isDigit_eq_false_of_isAlpha ((isAlpha_toLower c).trans hletter)]
  · rw [hsame]

theorem toLower_of_isDigit {c : Char} (hc : c.isDigit = true) : c.toLower = c := by
  refine toLower_eq_self_iff.mpr (Bool.eq_false_iff.mpr fun hupper => ?_)
  rw [isDigit_eq_false_of_isAlpha (isAlpha_of_isUpper hupper)] at hc
  cases hc

/-- Putting a text in lower case again changes nothing. -/
theorem map_toLower_idem (s : String) :
    (s.map Char.toLower).map Char.toLower = s.map Char.toLower := by
  have hchars : Char.toLower ∘ Char.toLower = Char.toLower := funext toLower_toLower
  rw [String.map_map, hchars]

/-- A text is in lower case if it has no letter in upper case. -/
theorem map_toLower_eq_self_iff {s : String} :
    s.map Char.toLower = s ↔ ∀ c ∈ s.toList, c.isUpper = false := by
  have hmap : s.toList.map Char.toLower = s.toList.map id ↔ ∀ c ∈ s.toList, c.toLower = c :=
    List.map_inj_left
  rw [← String.toList_inj, String.toList_map]
  simp only [← toLower_eq_self_iff, ← hmap, List.map_id]

end JdkCatalog.Text
