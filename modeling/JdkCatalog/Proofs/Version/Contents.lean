import JdkCatalog.Proofs.Sorting
import JdkCatalog.Proofs.Version.Order
import JdkCatalog.Proofs.Version.Tokens

/-!
# Versions by what they say

A version says a list of numbers and words.  This module says how versions are
ordered in terms of these lists alone, whose numbers are values and not digits.

* `contents` is what a version says.  Reading `(contents v)[n]?` at a place after
  the last one gives `none`, so a version goes on with its end for ever.
* `Before` is the order of two slots.  `Slot.compare_eq_lt_iff_before` says that the
  comparison of slots decides it, for tokens that come from a text.
* `compareTokens_eq_lt_iff` says that the first slots that do not tie decide.
* `compare_contents` puts them together with the laws of the order.
-/

namespace JdkCatalog.Version

/-! ## What a version says -/

/-- The value of a number, or the letters of a word in lower case. -/
inductive Content where
  | number (value : Nat)
  | word (letters : List Char)
deriving DecidableEq

/-- What a run of characters of one kind says. -/
def Content.ofRun? : List Char → Option Content
  | [] => none
  | c :: run =>
    match CharClass.of c with
    | .digit => some (number (value (c :: run)))
    | .letter => some (word (foldCase (c :: run)))
    | .separator => none

/-- What a version says, in order. -/
def contents (version : String) : List Content :=
  (runs version.toList).filterMap Content.ofRun?

/-- What a token says. -/
def Token.content : Token → Content
  | number digits => .number (value digits)
  | word letters => .word (foldCase letters)

theorem Content.ofRun?_eq_map (run : List Char) :
    ofRun? run = (Token.ofRun? run).map Token.content := by
  cases run with
  | nil => rfl
  | cons c run =>
    rw [ofRun?, Token.ofRun?]
    cases CharClass.of c with
    | digit => exact congrArg (fun n => some (number n)) (value_stripZeros (c :: run)).symm
    | letter => rfl
    | separator => rfl

theorem contents_eq_map (version : String) :
    contents version = (tokens version).map Token.content := by
  rw [contents, tokens, List.map_filterMap]
  exact List.filterMap_congr fun run _ => Content.ofRun?_eq_map run

/-! ## The order of slots -/

/-- The place of a slot among those of other kinds: pre-release words are before
the end of a version, other words after it, and numbers after these. -/
def Content.kind : Option Content → Nat
  | some (.word letters) => if String.ofList letters ∈ preReleaseWords then 0 else 2
  | none => 1
  | some (.number _) => 3

/-- The first slot is before the second one: it is of a smaller kind, or they are
of one kind and its number or its word is the smaller one. -/
inductive Before : Option Content → Option Content → Prop where
  | kind {s t : Option Content} (h : Content.kind s < Content.kind t) : Before s t
  | number {m n : Nat} (h : m < n) : Before (some (.number m)) (some (.number n))
  | word {v w : List Char}
      (hkind : Content.kind (some (.word v)) = Content.kind (some (.word w))) (h : v < w) :
      Before (some (.word v)) (some (.word w))

theorem Slot.rank_eq_kind (s : Slot) : s.rank = Content.kind (s.map Token.content) := by
  rcases s with _ | digits | letters
  · rfl
  · rfl
  · simp only [rank, Option.map_some, Token.content, Content.kind, List.contains_iff_mem]

theorem Slot.compare_eq_lt_iff_parts {s t : Slot} : Slot.compare s t = .lt ↔
    s.rank < t.rank ∨ s.rank = t.rank ∧
      (Ord.compare s.length t.length).then (Ord.compare s.content t.content) = .lt := by
  rw [Slot.compare, compareLex, Ordering.then_eq_lt, compareLex, compareOn, compareOn, compareOn,
    Nat.compare_eq_lt, Nat.compare_eq_eq]

/-- Words are compared as lists are ordered. -/
theorem compare_letters_eq_lt_iff {v w : List Char} : Ord.compare v w = .lt ↔ v < w := by
  induction v generalizing w with
  | nil => cases w <;> simp
  | cons c v ih =>
    cases w with
    | nil => simp
    | cons d w =>
      have hcd : Ord.compare c d = .lt ↔ c < d := compareOfLessAndEq_eq_lt
      rw [List.compare_cons_cons, Ordering.then_eq_lt, hcd, Std.compare_eq_iff_eq, ih,
        List.cons_lt_cons_iff]

/-- The token of a slot, if there is one, comes from a text. -/
def Slot.WellFormed (s : Slot) : Prop :=
  ∀ t ∈ s, t.WellFormed

theorem Slot.exists_number {s : Slot} {n : Nat} (hs : s.map Token.content = some (.number n)) :
    ∃ digits, s = some (.number digits) ∧ value digits = n := by
  obtain ⟨t, rfl, ht⟩ := Option.map_eq_some_iff.mp hs
  cases t with
  | number digits => exact ⟨digits, rfl, Content.number.inj ht⟩
  | word letters => cases ht

theorem Slot.exists_word {s : Slot} {v : List Char} (hs : s.map Token.content = some (.word v)) :
    ∃ letters, s = some (.word letters) ∧ foldCase letters = v := by
  obtain ⟨t, rfl, ht⟩ := Option.map_eq_some_iff.mp hs
  cases t with
  | number digits => cases ht
  | word letters => exact ⟨letters, rfl, Content.word.inj ht⟩

theorem Slot.compare_eq_lt_iff_before {s t : Slot} (hs : s.WellFormed) (ht : t.WellFormed) :
    Slot.compare s t = .lt ↔ Before (s.map Token.content) (t.map Token.content) := by
  rw [compare_eq_lt_iff_parts]
  constructor
  · rintro (hrank | ⟨hrank, hrest⟩)
    · rw [rank_eq_kind, rank_eq_kind] at hrank
      exact .kind hrank
    rcases s with _ | digits | letters <;> rcases t with _ | digits' | letters'
    · cases hrest
    · cases hrank
    · exact absurd hrank.symm (rank_word_ne letters').1
    · cases hrank
    · have hvalue := (compare_stripped (hs _ rfl) (ht _ rfl)).symm.trans hrest
      exact .number (Nat.compare_eq_lt.mp hvalue)
    · exact absurd hrank.symm (rank_word_ne letters').2
    · exact absurd hrank (rank_word_ne letters).1
    · exact absurd hrank (rank_word_ne letters).2
    · rw [rank_eq_kind, rank_eq_kind] at hrank
      exact .word hrank (compare_letters_eq_lt_iff.mp hrest)
  · intro hbefore
    generalize hs' : s.map Token.content = s' at hbefore
    generalize ht' : t.map Token.content = t' at hbefore
    cases hbefore with
    | kind hkind =>
      left
      rwa [rank_eq_kind, rank_eq_kind, hs', ht']
    | number hvalue =>
      obtain ⟨digits, rfl, rfl⟩ := exists_number hs'
      obtain ⟨digits', rfl, rfl⟩ := exists_number ht'
      have hcompare := compare_stripped (hs _ rfl) (ht _ rfl)
      exact .inr ⟨rfl, hcompare.trans (Nat.compare_eq_lt.mpr hvalue)⟩
    | word hkind hletters =>
      obtain ⟨letters, rfl, rfl⟩ := exists_word hs'
      obtain ⟨letters', rfl, rfl⟩ := exists_word ht'
      refine .inr ⟨?_, compare_letters_eq_lt_iff.mpr hletters⟩
      rwa [rank_eq_kind, rank_eq_kind]

/-! ## Ties -/

theorem Token.folded_eq_iff {t u : Token} (ht : t.WellFormed) (hu : u.WellFormed) :
    t.folded = u.folded ↔ t.content = u.content := by
  cases t with
  | number digits =>
    cases u with
    | number digits' =>
      simp only [folded, content, number.injEq, Content.number.injEq]
      constructor
      · intro hdigits
        rw [hdigits]
      · intro hvalue
        exact IsStripped.eq_of_value_eq ht hu hvalue
    | word letters' => simp [folded, content]
  | word letters => cases u <;> simp [folded, content]

theorem Slot.compare_eq_eq_iff_content {s t : Slot} (hs : s.WellFormed) (ht : t.WellFormed) :
    Slot.compare s t = .eq ↔ s.map Token.content = t.map Token.content := by
  rw [compare_eq_eq_iff]
  cases s with
  | none => cases t <;> simp
  | some s =>
    cases t with
    | none => simp
    | some t =>
      rw [Option.map_some, Option.map_some, Option.map_some, Option.map_some, Option.some.injEq,
        Option.some.injEq]
      exact Token.folded_eq_iff (hs s rfl) (ht t rfl)

/-! ## Versions slot by slot -/

/-- A place that a stretch of places leads up to is the first one, or the first one
leads up to it and a stretch from the second one on does. -/
theorem exists_first_iff {p q : Nat → Prop} : (∃ n, (∀ i < n, p i) ∧ q n) ↔
    q 0 ∨ p 0 ∧ ∃ n, (∀ i < n, p (i + 1)) ∧ q (n + 1) := by
  rw [← Nat.or_exists_add_one]
  simp only [Nat.not_lt_zero, false_implies, implies_true, true_and, Nat.forall_lt_succ_left,
    and_assoc, exists_and_left]

/-- Versions are in the order of the first slots that do not tie. -/
theorem compareTokens_eq_lt_iff {ts us : List Token} : compareTokens ts us = .lt ↔
    ∃ n : Nat, (∀ i < n, Slot.compare ts[i]? us[i]? = .eq) ∧ Slot.compare ts[n]? us[n]? = .lt := by
  fun_induction compareTokens ts us with
  | case1 =>
    have hend : Slot.compare none none = .eq := rfl
    simp [hend]
  | case2 u us ih =>
    rw [Ordering.then_eq_lt, ih]
    exact Iff.symm exists_first_iff
  | case3 t ts ih =>
    rw [Ordering.then_eq_lt, ih]
    exact Iff.symm exists_first_iff
  | case4 t ts u us ih =>
    rw [Ordering.then_eq_lt, ih]
    exact Iff.symm exists_first_iff

theorem compareTokens_eq_eq_iff_content {ts us : List Token} (hts : ∀ t ∈ ts, t.WellFormed)
    (hus : ∀ u ∈ us, u.WellFormed) :
    compareTokens ts us = .eq ↔ ts.map Token.content = us.map Token.content := by
  rw [compareTokens_eq_eq_iff]
  induction ts generalizing us with
  | nil => cases us <;> simp
  | cons t ts ih =>
    cases us with
    | nil => simp
    | cons u us =>
      have htoken := Token.folded_eq_iff (hts t List.mem_cons_self) (hus u List.mem_cons_self)
      have hrest := ih (fun v hv => hts v (List.mem_cons_of_mem t hv))
        (fun v hv => hus v (List.mem_cons_of_mem u hv))
      simp only [List.map_cons, List.cons.injEq, htoken, hrest]

theorem wellFormed_slot (version : String) (n : Nat) : Slot.WellFormed (tokens version)[n]? := by
  intro t ht
  exact wellFormed_of_mem_tokensOf (List.mem_of_getElem? ht)

theorem compare_eq_lt_iff_contents {a b : String} : Version.compare a b = .lt ↔
    ∃ n : Nat, (∀ i < n, (contents a)[i]? = (contents b)[i]?) ∧
      Before (contents a)[n]? (contents b)[n]? := by
  have hslot (n : Nat) (v : String) : (contents v)[n]? = (tokens v)[n]?.map Token.content := by
    rw [contents_eq_map, List.getElem?_map]
  rw [Version.compare, compareTokens_eq_lt_iff]
  simp only [hslot, Slot.compare_eq_eq_iff_content (wellFormed_slot a _) (wellFormed_slot b _),
    Slot.compare_eq_lt_iff_before (wellFormed_slot a _) (wellFormed_slot b _)]

theorem compare_eq_eq_iff_contents {a b : String} :
    Version.compare a b = .eq ↔ contents a = contents b := by
  rw [contents_eq_map, contents_eq_map]
  exact compareTokens_eq_eq_iff_content (fun _ => wellFormed_of_mem_tokensOf)
    (fun _ => wellFormed_of_mem_tokensOf)

example : contents "11.0.09-EA" = contents "11_0 9ea" := by decide

/-- The order of versions is a total preorder, versions that tie stand in it for
each other, and it is the lexicographic order of what they say, each with its end
after it for ever. -/
theorem compare_contents (a b c : String) :
    Version.compare b a = (Version.compare a b).swap ∧
    (Version.compare a b ≠ .gt → Version.compare b c ≠ .gt →
      Version.compare a c ≠ .gt ∧
        (Version.compare a b = .lt ∨ Version.compare b c = .lt → Version.compare a c = .lt)) ∧
    (Version.compare a b = .eq →
      Version.compare a c = Version.compare b c ∧ Version.compare c a = Version.compare c b) ∧
    (Version.compare a b = .eq ↔ contents a = contents b) ∧
    (Version.compare a b = .lt ↔
      ∃ n : Nat, (∀ i < n, (contents a)[i]? = (contents b)[i]?) ∧
        Before (contents a)[n]? (contents b)[n]?) ∧
    (Version.compare a b = .gt ↔
      ∃ n : Nat, (∀ i < n, (contents a)[i]? = (contents b)[i]?) ∧
        Before (contents b)[n]? (contents a)[n]?) := by
  refine ⟨Std.OrientedCmp.eq_swap, Sorting.ne_gt_trans, fun htie => ?_,
    compare_eq_eq_iff_contents, compare_eq_lt_iff_contents, ?_⟩
  · exact ⟨Std.TransCmp.congr_left htie, Std.TransCmp.congr_right htie⟩
  · rw [Std.OrientedCmp.gt_iff_lt, compare_eq_lt_iff_contents]
    simp only [eq_comm]

end JdkCatalog.Version
