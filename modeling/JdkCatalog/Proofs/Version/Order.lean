import JdkCatalog.Version
import Mathlib.Order.Defs.LinearOrder

/-!
# The order of versions

Versions are compared slot by slot, and a version that has run out of tokens
goes on with slots that are its end.  This module says that this is a total
preorder, and which versions tie.

* `Slot.compare_eq_eq_iff` says when two slots tie.  A token ties with no end,
  and two tokens tie if they are equal but for the case of letters.
* `slots` pads a version with ends to any length.  `compareTokens_eq_compareLex`
  says that two versions compare as the lists of slots do, whatever the common
  length is, and the order of lists is known to be transitive.
* `compare_eq_eq_iff` says that versions tie if and only if their tokens do.
-/

namespace JdkCatalog.Version

/-! ## Slots -/

/-- A token, without the case of its letters. -/
def Token.folded : Token → Token
  | number digits => number digits
  | word letters => word (foldCase letters)

theorem Slot.compare_eq_eq_iff_parts {s t : Slot} :
    Slot.compare s t = .eq ↔ s.rank = t.rank ∧ s.length = t.length ∧ s.content = t.content := by
  simp only [Slot.compare, compareLex_eq_eq, compareOn, Std.compare_eq_iff_eq]

/-- The rank of a word is neither that of the end nor that of a number. -/
theorem Slot.rank_word_ne (letters : List Char) :
    Slot.rank (some (.word letters)) ≠ 1 ∧ Slot.rank (some (.word letters)) ≠ 3 := by
  rw [Slot.rank]
  split <;> decide

theorem Slot.compare_eq_eq_iff {s t : Slot} :
    Slot.compare s t = .eq ↔ s.map Token.folded = t.map Token.folded := by
  rw [compare_eq_eq_iff_parts]
  constructor
  · intro h
    rcases h with ⟨hrank, -, hcontent⟩
    rcases s with _ | digits | letters <;> rcases t with _ | digits' | letters'
    · rfl
    · cases hrank
    · exact absurd hrank.symm (rank_word_ne letters').1
    · cases hrank
    · exact congrArg (fun cs => some (Token.number cs)) hcontent
    · exact absurd hrank.symm (rank_word_ne letters').2
    · exact absurd hrank (rank_word_ne letters).1
    · exact absurd hrank (rank_word_ne letters).2
    · exact congrArg (fun cs => some (Token.word cs)) hcontent
  · intro h
    rcases s with _ | digits | letters <;> rcases t with _ | digits' | letters' <;>
      simp only [Option.map_none, Option.map_some, Token.folded, Option.some.injEq, reduceCtorEq,
        Token.number.injEq, Token.word.injEq] at h
    · exact ⟨rfl, rfl, rfl⟩
    · rw [h]
      exact ⟨rfl, rfl, rfl⟩
    · refine ⟨?_, rfl, h⟩
      rw [rank, rank, h]

/-! ## Versions as lists of slots -/

/-- The first slots of a version: its tokens, and ends after them. -/
def slots : (count : Nat) → List Token → List Slot
  | 0, _ => []
  | count + 1, ts => ts.head? :: slots count ts.tail

/-- The first slots decide, unless they tie. -/
theorem compareTokens_eq_then (ts us : List Token) :
    compareTokens ts us =
      (Slot.compare ts.head? us.head?).then (compareTokens ts.tail us.tail) := by
  cases ts with
  | nil =>
    cases us with
    | nil => rw [List.tail_nil, compareTokens]; rfl
    | cons u us => rw [compareTokens]; rfl
  | cons t ts =>
    cases us with
    | nil => rw [compareTokens]; rfl
    | cons u us => rw [compareTokens]; rfl

/-- Versions compare as their lists of slots do, up to any place at which both
have run out of tokens. -/
theorem compareTokens_eq_compareLex {count : Nat} {ts us : List Token} (hts : ts.length ≤ count)
    (hus : us.length ≤ count) :
    compareTokens ts us = (slots count ts).compareLex Slot.compare (slots count us) := by
  induction count generalizing ts us with
  | zero =>
    rw [List.length_eq_zero_iff.mp (Nat.le_zero.mp hts),
      List.length_eq_zero_iff.mp (Nat.le_zero.mp hus), compareTokens]
    rfl
  | succ count ih =>
    have htail : ts.tail.length ≤ count := by rw [List.length_tail]; omega
    have hutail : us.tail.length ≤ count := by rw [List.length_tail]; omega
    rw [compareTokens_eq_then, slots, slots, List.compareLex_cons_cons, ih htail hutail]

instance : Std.TransCmp compareTokens where
  eq_swap {ts us} := by
    have hts : ts.length ≤ max ts.length us.length := Nat.le_max_left _ _
    have hus : us.length ≤ max ts.length us.length := Nat.le_max_right _ _
    rw [compareTokens_eq_compareLex hts hus, compareTokens_eq_compareLex hus hts]
    exact Std.OrientedCmp.eq_swap
  isLE_trans {ts us vs} htu huv := by
    let count := max ts.length (max us.length vs.length)
    have hts : ts.length ≤ count := by omega
    have hus : us.length ≤ count := by omega
    have hvs : vs.length ≤ count := by omega
    rw [compareTokens_eq_compareLex hts hus] at htu
    rw [compareTokens_eq_compareLex hus hvs] at huv
    rw [compareTokens_eq_compareLex hts hvs]
    exact Std.TransCmp.isLE_trans htu huv

instance : Std.TransCmp Version.compare :=
  inferInstanceAs (Std.TransCmp (Ordering.byKey tokens compareTokens))

/-! ## Ties -/

theorem compareTokens_eq_eq_iff {ts us : List Token} :
    compareTokens ts us = .eq ↔ ts.map Token.folded = us.map Token.folded := by
  fun_induction compareTokens ts us with
  | case1 => simp
  | case2 u us ih => simp [Slot.compare_eq_eq_iff]
  | case3 t ts ih => simp [Slot.compare_eq_eq_iff]
  | case4 t ts u us ih => simp [Slot.compare_eq_eq_iff, ih]

/-- The tokens of a version, without the case of their letters. -/
def foldedTokens (version : String) : List Token :=
  (tokens version).map Token.folded

theorem compare_eq_eq_iff {a b : String} :
    Version.compare a b = .eq ↔ foldedTokens a = foldedTokens b :=
  compareTokens_eq_eq_iff

end JdkCatalog.Version
