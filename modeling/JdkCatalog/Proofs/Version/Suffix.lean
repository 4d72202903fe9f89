import JdkCatalog.Proofs.Version.Order
import JdkCatalog.Proofs.Version.Tokens

/-!
# Versions with a common start

What follows a separator decides between versions that are the same up to it, and
what is added to a version after a separator moves it up or down by its first token
alone.

* `compareTokens_append_append` compares lists of tokens part by part, if their first
  parts are equally long.  `compareTokens_append` cancels a common start.
* `compareTokens_nil` compares tokens with no tokens.  No token ties with the end of
  a version, so the first one decides (`Slot.compare_end`).
* `compare_after_separator` puts both together, with `tokens_after_separator` for
  where the tokens come from.
-/

namespace JdkCatalog.Version

/-- A word that marks a version before the release, in any case. -/
def Token.IsPreRelease : Token → Prop
  | number _ => False
  | word letters => String.ofList (foldCase letters) ∈ preReleaseWords

instance : DecidablePred Token.IsPreRelease
  | .number _ => inferInstanceAs (Decidable False)
  | .word letters => inferInstanceAs (Decidable (String.ofList (foldCase letters) ∈ _))

/-! ## Lists of tokens -/

/-- What comes after equally many tokens decides if those tie. -/
theorem compareTokens_append_append {ts us : List Token} (hlength : ts.length = us.length)
    (ts' us' : List Token) :
    compareTokens (ts ++ ts') (us ++ us') =
      (compareTokens ts us).then (compareTokens ts' us') := by
  induction ts generalizing us with
  | nil =>
    rw [List.length_eq_zero_iff.mp hlength.symm, compareTokens]
    rfl
  | cons t ts ih =>
    obtain ⟨u, us, rfl⟩ := List.exists_cons_of_length_eq_add_one hlength.symm
    rw [List.cons_append, List.cons_append, compareTokens, compareTokens,
      ih (Nat.succ.inj hlength), Ordering.then_assoc]

theorem compareTokens_append (ts us vs : List Token) :
    compareTokens (ts ++ us) (ts ++ vs) = compareTokens us vs := by
  have hself : compareTokens ts ts = .eq := Std.ReflCmp.compare_self
  rw [compareTokens_append_append rfl, hself, Ordering.eq_then]

/-- A pre-release word is before the end of a version, every other token after it. -/
theorem Slot.compare_end (t : Token) :
    Slot.compare (some t) none = if t.IsPreRelease then .lt else .gt := by
  cases t with
  | number digits => rfl
  | word letters =>
    have hrank : Slot.rank (some (.word letters)) =
        if String.ofList (foldCase letters) ∈ preReleaseWords then 0 else 2 := by
      simp only [rank, List.contains_iff_mem]
    by_cases hword : String.ofList (foldCase letters) ∈ preReleaseWords
    · have hpre : (Token.word letters).IsPreRelease := hword
      rw [if_pos hpre, Slot.compare, compareLex, compareOn, hrank, if_pos hword]
      rfl
    · have hpre : ¬ (Token.word letters).IsPreRelease := hword
      rw [if_neg hpre, Slot.compare, compareLex, compareOn, hrank, if_neg hword]
      rfl

theorem compareTokens_nil (t : Token) (ts : List Token) :
    compareTokens (t :: ts) [] = if t.IsPreRelease then .lt else .gt := by
  rw [compareTokens, Slot.compare_end]
  split <;> rfl

/-! ## Texts with a separator in them -/

theorem tokens_after_separator {s : Char} (hs : s.isAlphanum = false) (v x : String) :
    tokens (v ++ String.singleton s ++ x) = tokens v ++ tokens x := by
  change tokensOf (v ++ String.singleton s ++ x).toList = tokensOf v.toList ++ tokensOf x.toList
  rw [String.toList_append, String.toList_append, String.toList_singleton]
  exact tokensOf_separated (List.cons_ne_nil s []) (List.forall_mem_singleton.mpr hs) _ _

/-- Of versions that are the same up to a separator, what comes after it decides.
Adding something to a version moves it down if the first token of that is a
pre-release word, up if it is another word or a number, and not at all if there is
none. -/
theorem compare_after_separator {s : Char} (hs : s.isAlphanum = false) (v x y : String) :
    Version.compare (v ++ String.singleton s ++ x) (v ++ String.singleton s ++ y) =
      Version.compare x y ∧
    (Version.compare (v ++ String.singleton s ++ x) v = .lt ↔
      ∃ t rest, tokens x = t :: rest ∧ t.IsPreRelease) ∧
    (Version.compare (v ++ String.singleton s ++ x) v = .eq ↔ tokens x = []) ∧
    (Version.compare (v ++ String.singleton s ++ x) v = .gt ↔
      ∃ t rest, tokens x = t :: rest ∧ ¬ t.IsPreRelease) := by
  have hadded : Version.compare (v ++ String.singleton s ++ x) v = compareTokens (tokens x) [] := by
    have hcancel := compareTokens_append (tokens v) (tokens x) []
    rwa [List.append_nil, ← tokens_after_separator hs] at hcancel
  refine ⟨?_, ?_⟩
  · rw [Version.compare, tokens_after_separator hs, tokens_after_separator hs,
      compareTokens_append, Version.compare]
  · rw [hadded]
    cases tokens x with
    | nil => simp [compareTokens]
    | cons t ts =>
      rw [compareTokens_nil]
      by_cases ht : t.IsPreRelease <;> simp [ht]

/-- An early access build is before the release. -/
theorem compare_elevenEa : ('-').isAlphanum = false ∧
    Version.compare ("11" ++ String.singleton '-' ++ "EA.7") "11" = .lt := by
  refine ⟨by decide, ?_⟩
  rw [(compare_after_separator (by decide) "11" "EA.7" "").2.1]
  exact ⟨.word ['E', 'A'], [.number ['7']], by decide, by decide⟩

end JdkCatalog.Version
