import JdkCatalog.Proofs.Text.Letters
import JdkCatalog.Proofs.Version.Number
import Mathlib.Data.List.SplitBy

/-!
# The tokens of a text

How the tokens of a text come from those of its parts.

* `Seam` says that no run of digits or letters goes on from one text to the next.
  `tokensOf_append` says that the tokens of the two together are then those of the
  one and those of the other.  A run of separators may go on, since it stands for
  no token.
* `tokensOf_run` is about a text that is one run, `tokensOf_separators` about a text
  of separators only.
* `run_induction` goes through a text run by run, and `tokensOf_run_append` says
  what a run adds.
* `WellFormed` says what the digits of a number are (`wellFormed_of_mem_tokensOf`).
-/

namespace JdkCatalog.Version

/-! ## Kinds of characters -/

namespace CharClass

theorem of_eq_digit_iff {c : Char} : of c = digit ↔ c.isDigit = true := by
  unfold of
  split
  next hdigit => simp [hdigit]
  next hdigit => split <;> simp [hdigit]

theorem of_eq_letter_iff {c : Char} : of c = letter ↔ c.isAlpha = true := by
  unfold of
  split
  next hdigit =>
    have hletter : c.isAlpha ≠ true := by
      intro hletter
      rw [Text.isDigit_eq_false_of_isAlpha hletter] at hdigit
      cases hdigit
    simp [hletter]
  next => split <;> simp [*]

theorem of_eq_separator_iff {c : Char} : of c = separator ↔ c.isAlphanum = false := by
  unfold of Char.isAlphanum
  split
  next hdigit => simp [hdigit]
  next hdigit => split <;> simp [*]

end CharClass

/-! ## Runs -/

/-- The tokens of a text, in order. -/
def tokensOf (cs : List Char) : List Token :=
  (runs cs).filterMap Token.ofRun?

/-- The characters of a run are of one kind. -/
theorem class_eq_of_mem_runs {cs run : List Char} (hrun : run ∈ runs cs) {c d : Char}
    (hc : c ∈ run) (hd : d ∈ run) : CharClass.of c = CharClass.of d := by
  let same : Char → Char → Prop := fun c d => CharClass.of c = CharClass.of d
  have htrans : Trans same same same := ⟨Eq.trans⟩
  have hsymm : Std.Symm same := ⟨fun _ _ => Eq.symm⟩
  have hchain : run.IsChain same := by
    simpa only [decide_eq_true_eq] using List.isChain_of_mem_splitBy hrun
  have hpairwise : run.Pairwise same := List.isChain_iff_pairwise.mp hchain
  have hrefl : ∀ c ∈ run, same c c := fun _ _ => rfl
  exact List.Pairwise.forall_of_forall hrefl hpairwise hc hd

theorem isChain_of_kind {kind : CharClass} {run : List Char}
    (hrun : ∀ c ∈ run, CharClass.of c = kind) :
    run.IsChain fun c d => decide (CharClass.of c = CharClass.of d) = true := by
  apply List.Pairwise.isChain
  apply List.pairwise_of_forall_mem_list
  intro c hc d hd
  exact decide_eq_true ((hrun c hc).trans (hrun d hd).symm)

/-- A run that does not go on is the first one. -/
theorem runs_run_append {kind : CharClass} {run rest : List Char} (hne : run ≠ [])
    (hrun : ∀ c ∈ run, CharClass.of c = kind) (hrest : ∀ c ∈ rest.head?, CharClass.of c ≠ kind) :
    runs (run ++ rest) = run :: runs rest := by
  rw [runs, List.splitBy_append, List.splitBy_of_isChain hne (isChain_of_kind hrun),
    List.singleton_append, runs]
  intro c hc d hd
  have hcd : CharClass.of c ≠ CharClass.of d := by
    rw [hrun c (List.mem_of_getLast? hc)]
    exact (hrest d hd).symm
  exact decide_eq_false hcd

theorem tokensOf_run {kind : CharClass} {run : List Char} (hne : run ≠ [])
    (hrun : ∀ c ∈ run, CharClass.of c = kind) : tokensOf run = (Token.ofRun? run).toList := by
  rw [tokensOf, runs, List.splitBy_of_isChain hne (isChain_of_kind hrun)]
  cases htoken : Token.ofRun? run <;> simp [htoken]

theorem Token.ofRun?_of_isDigit {run : List Char} (hne : run ≠ [])
    (hdigits : ∀ c ∈ run, c.isDigit = true) :
    Token.ofRun? run = some (.number (stripZeros run)) := by
  obtain ⟨c, more, rfl⟩ := List.exists_cons_of_ne_nil hne
  rw [Token.ofRun?, CharClass.of_eq_digit_iff.mpr (hdigits c List.mem_cons_self)]

theorem tokensOf_separators {seps : List Char} (hseps : ∀ c ∈ seps, c.isAlphanum = false) :
    tokensOf seps = [] := by
  have hseps : ∀ c ∈ seps, CharClass.of c = .separator := fun c hc =>
    CharClass.of_eq_separator_iff.mpr (hseps c hc)
  cases seps with
  | nil => rfl
  | cons c seps =>
    rw [tokensOf_run (List.cons_ne_nil c seps) hseps, Token.ofRun?, hseps c List.mem_cons_self]
    rfl

/-! ## Texts put together -/

/-- No run of digits or letters goes on from the one text to the other. -/
def Seam (front rest : List Char) : Prop :=
  ∀ c ∈ front.getLast?, ∀ d ∈ rest.head?,
    CharClass.of c = CharClass.of d → CharClass.of c = .separator

theorem tokensOf_append_of_ne {front rest : List Char}
    (hne : ∀ c ∈ front.getLast?, ∀ d ∈ rest.head?, CharClass.of c ≠ CharClass.of d) :
    tokensOf (front ++ rest) = tokensOf front ++ tokensOf rest := by
  have hruns : runs (front ++ rest) = runs front ++ runs rest :=
    List.splitBy_append fun c hc d hd => decide_eq_false (hne c hc d hd)
  rw [tokensOf, hruns, List.filterMap_append, tokensOf, tokensOf]

/-- Separators in front of a text do not count. -/
theorem tokensOf_separators_append {seps : List Char}
    (hseps : ∀ c ∈ seps, c.isAlphanum = false) (rest : List Char) :
    tokensOf (seps ++ rest) = tokensOf rest := by
  -- The run that the separators are in may go on at the start of the text.
  let sep : Char → Bool := fun c => !c.isAlphanum
  have hahead : ∀ more : List Char, (∀ c ∈ more, c.isAlphanum = false) →
      tokensOf (more ++ rest.dropWhile sep) = tokensOf (rest.dropWhile sep) := by
    intro more hmore
    rw [tokensOf_append_of_ne, tokensOf_separators hmore, List.nil_append]
    intro c hc d hd hcd
    have hsep := CharClass.of_eq_separator_iff.mpr (hmore c (List.mem_of_getLast? hc))
    have hd' : d.isAlphanum = false := CharClass.of_eq_separator_iff.mp (hcd.symm.trans hsep)
    have hnone : sep d = false := Text.noneAhead_dropWhile rest d hd
    simp [sep, hd'] at hnone
  have htake : ∀ c ∈ rest.takeWhile sep, c.isAlphanum = false := by
    intro c hc
    have hsep : sep c = true := List.all_eq_true.mp List.all_takeWhile c hc
    simpa [sep] using hsep
  calc tokensOf (seps ++ rest)
      = tokensOf ((seps ++ rest.takeWhile sep) ++ rest.dropWhile sep) := by
        rw [List.append_assoc, List.takeWhile_append_dropWhile]
    _ = tokensOf (rest.dropWhile sep) :=
        hahead _ (List.forall_mem_append.mpr ⟨hseps, htake⟩)
    _ = tokensOf (rest.takeWhile sep ++ rest.dropWhile sep) := (hahead _ htake).symm
    _ = tokensOf rest := by rw [List.takeWhile_append_dropWhile]

/-- A text is one that does not end in a separator, and separators after it. -/
theorem exists_append_separators (cs : List Char) : ∃ core seps, cs = core ++ seps ∧
    (∀ c ∈ core.getLast?, c.isAlphanum = true) ∧ ∀ c ∈ seps, c.isAlphanum = false := by
  induction cs using List.reverseRecOn with
  | nil => exact ⟨[], [], rfl, by simp, by simp⟩
  | append_singleton cs c ih =>
    by_cases hc : c.isAlphanum = true
    · exact ⟨cs ++ [c], [], by simp, by simpa using hc, by simp⟩
    · obtain ⟨core, seps, rfl, hcore, hseps⟩ := ih
      refine ⟨core, seps ++ [c], List.append_assoc .., hcore, ?_⟩
      exact List.forall_mem_append.mpr ⟨hseps, by simpa using hc⟩

theorem tokensOf_append {front rest : List Char} (hseam : Seam front rest) :
    tokensOf (front ++ rest) = tokensOf front ++ tokensOf rest := by
  obtain ⟨core, seps, rfl, hcore, hseps⟩ := exists_append_separators front
  have hends : ∀ c ∈ core.getLast?, CharClass.of c ≠ .separator := by
    intro c hc hsep
    rw [CharClass.of_eq_separator_iff, hcore c hc] at hsep
    cases hsep
  cases seps with
  | nil =>
    rw [List.append_nil] at hseam ⊢
    apply tokensOf_append_of_ne
    intro c hc d hd hcd
    exact hends c hc (hseam c hc d hd hcd)
  | cons s seps =>
    have hstep : ∀ more : List Char,
        tokensOf (core ++ (s :: seps ++ more)) = tokensOf core ++ tokensOf more := by
      intro more
      rw [tokensOf_append_of_ne, tokensOf_separators_append hseps]
      rintro c hc d ⟨rfl⟩ hcd
      have hs := CharClass.of_eq_separator_iff.mpr (hseps s List.mem_cons_self)
      exact hends c hc (hcd.trans hs)
    have hfront : tokensOf (core ++ s :: seps) = tokensOf core := by
      simpa [tokensOf_separators] using hstep []
    rw [List.append_assoc, hstep, hfront]

/-- Separators between two texts keep the tokens of the two apart. -/
theorem tokensOf_separated {seps : List Char} (hne : seps ≠ [])
    (hseps : ∀ c ∈ seps, c.isAlphanum = false) (front rest : List Char) :
    tokensOf (front ++ seps ++ rest) = tokensOf front ++ tokensOf rest := by
  obtain ⟨s, more, rfl⟩ := List.exists_cons_of_ne_nil hne
  have hs := CharClass.of_eq_separator_iff.mpr (hseps s List.mem_cons_self)
  have hseam : Seam front (s :: more ++ rest) := by
    rintro c hc d ⟨rfl⟩ hcs
    exact hcs.trans hs
  rw [List.append_assoc, tokensOf_append hseam, tokensOf_separators_append hseps]

/-! ## Texts run by run -/

/-- What holds of the empty text, and of a run and what comes after it if it holds
of that, holds of every text. -/
theorem run_induction {motive : List Char → Prop} (nil : motive [])
    (run : ∀ (kind : CharClass) (run rest : List Char), run ≠ [] →
      (∀ c ∈ run, CharClass.of c = kind) → (∀ c ∈ rest.head?, CharClass.of c ≠ kind) →
      motive rest → motive (run ++ rest)) : ∀ cs, motive cs
  | [] => nil
  | c :: cs => by
    let same : Char → Bool := fun d => CharClass.of d = CharClass.of c
    have hkind : ∀ d ∈ c :: cs.takeWhile same, CharClass.of d = CharClass.of c := by
      refine List.forall_mem_cons.mpr ⟨rfl, fun d hd => ?_⟩
      exact of_decide_eq_true (List.all_eq_true.mp List.all_takeWhile d hd)
    have hahead : ∀ d ∈ (cs.dropWhile same).head?, CharClass.of d ≠ CharClass.of c :=
      fun d hd => of_decide_eq_false (Text.noneAhead_dropWhile cs d hd)
    have hrest : motive (cs.dropWhile same) := run_induction nil run _
    have hsplit := run _ _ _ (List.cons_ne_nil c _) hkind hahead hrest
    rwa [List.cons_append, List.takeWhile_append_dropWhile] at hsplit
termination_by cs => cs.length
decreasing_by
  rw [List.length_cons]
  exact Nat.lt_succ_of_le (List.dropWhile_sublist _).length_le

/-- A run that does not go on stands for its token, if it stands for one. -/
theorem tokensOf_run_append {kind : CharClass} {run rest : List Char} (hne : run ≠ [])
    (hrun : ∀ c ∈ run, CharClass.of c = kind) (hrest : ∀ c ∈ rest.head?, CharClass.of c ≠ kind) :
    tokensOf (run ++ rest) = (Token.ofRun? run).toList ++ tokensOf rest := by
  rw [tokensOf, runs_run_append hne hrun hrest, List.filterMap_cons, tokensOf]
  cases Token.ofRun? run <;> rfl

/-! ## What tokens are -/

/-- The digits of a number are those of a run without the zeros in front. -/
def Token.WellFormed : Token → Prop
  | number digits => IsStripped digits
  | word _ => True

theorem wellFormed_of_mem_tokensOf {cs : List Char} {t : Token} (ht : t ∈ tokensOf cs) :
    t.WellFormed := by
  obtain ⟨run, hrun, htoken⟩ := List.mem_filterMap.mp ht
  cases run with
  | nil => cases htoken
  | cons c run =>
    rw [Token.ofRun?] at htoken
    split at htoken
    next hdigit =>
      obtain rfl := Option.some.inj htoken
      apply isStripped_stripZeros
      intro d hd
      rw [← CharClass.of_eq_digit_iff, ← hdigit]
      exact class_eq_of_mem_runs hrun hd List.mem_cons_self
    next =>
      obtain rfl := Option.some.inj htoken
      trivial
    next => cases htoken

end JdkCatalog.Version
