import JdkCatalog.Proofs.Text.Letters
import JdkCatalog.Proofs.Version.Order
import JdkCatalog.Proofs.Version.Tokens
import Mathlib.Logic.Relation

/-!
# The spelling of versions does not matter

A version can be written with other separators, with zeros in front of its numbers
and with its words in another case.  This module says that none of this shows in a
comparison, and that nothing else is hidden by one.

* `Respelling` is one change of how a text is written, and `Respelled` any number
  of changes, each of them one way or the other.
* `runs_map` and `tokensOf_map_toLower` say that the case of letters does not move
  the runs, `tokensOf_zero_cons` and `tokensOf_between` that a zero in front of a
  number and separators between a digit and a letter do not count.
* `Respelling.tokensOf_folded` is what one change keeps, and `Respelled.tokensOf_folded`
  what all of them do.
* `respelled_dotted` brings every text to a spelling that its tokens determine, run
  by run.  The text before a run takes part in the induction, since a change is
  allowed or not by what stands next to it.
* `respelled_iff` and `compare_respelled` are the result.
-/

namespace JdkCatalog.Version

/-! ## The case of letters -/

theorem CharClass.of_toLower (c : Char) : of c.toLower = of c := by
  rw [of, of, Text.isDigit_toLower, Text.isAlpha_toLower]

/-- Changing characters within their kinds leaves the runs where they are. -/
theorem runs_map {f : Char → Char} (hf : ∀ c, CharClass.of (f c) = CharClass.of c)
    (cs : List Char) : runs (cs.map f) = (runs cs).map (List.map f) := by
  rw [runs, List.splitBy_eq_iff]
  refine ⟨?flatten, ?ne_nil, ?chains, ?seams⟩
  case flatten => rw [← List.map_flatten, runs, List.flatten_splitBy]
  case ne_nil =>
    intro hnil
    obtain ⟨run, hrun, hmap⟩ := List.mem_map.mp hnil
    rw [List.map_eq_nil_iff.mp hmap] at hrun
    exact List.nil_notMem_splitBy _ _ hrun
  case chains =>
    intro mapped hmapped
    obtain ⟨run, hmem, rfl⟩ := List.mem_map.mp hmapped
    rw [List.isChain_map]
    simp only [hf]
    exact List.isChain_of_mem_splitBy hmem
  case seams =>
    rw [List.isChain_map]
    refine (List.isChain_getLast_head_splitBy _ cs).imp ?_
    rintro front rest ⟨hfront, hrest, hne⟩
    refine ⟨by simpa using hfront, by simpa using hrest, ?_⟩
    simpa [hf] using hne

theorem Token.ofRun?_map_toLower {cs run : List Char} (hrun : run ∈ runs cs) :
    ofRun? (run.map Char.toLower) = (ofRun? run).map folded := by
  cases run with
  | nil => rfl
  | cons c run =>
    rw [List.map_cons, ofRun?, ofRun?, CharClass.of_toLower, ← List.map_cons]
    cases hclass : CharClass.of c with
    | digit =>
      have hmap : (c :: run).map Char.toLower = c :: run := by
        have hdigits : ∀ d ∈ c :: run, d.toLower = d := by
          intro d hd
          have hkind := class_eq_of_mem_runs hrun hd List.mem_cons_self
          exact Text.toLower_of_isDigit (CharClass.of_eq_digit_iff.mp (hkind.trans hclass))
        rw [List.map_congr_left hdigits, List.map_id']
      rw [hmap]
      rfl
    | letter => rfl
    | separator => rfl

theorem tokensOf_map_toLower (cs : List Char) :
    tokensOf (cs.map Char.toLower) = (tokensOf cs).map Token.folded := by
  rw [tokensOf, runs_map CharClass.of_toLower, List.filterMap_map, tokensOf, List.map_filterMap]
  exact List.filterMap_congr fun run hrun => Token.ofRun?_map_toLower hrun

/-! ## Zeros in front of a number -/

theorem stripZeros_zero_cons (digits : List Char) :
    stripZeros ('0' :: digits) = stripZeros digits := by
  rw [stripZeros, List.dropWhile_cons_of_pos (by simp), stripZeros]

theorem tokensOf_digits_append {digits rest : List Char} (hne : digits ≠ [])
    (hdigits : ∀ c ∈ digits, c.isDigit = true) (hrest : Text.NoneAhead Char.isDigit rest) :
    tokensOf (digits ++ rest) = .number (stripZeros digits) :: tokensOf rest := by
  have hkind : ∀ c ∈ digits, CharClass.of c = .digit := fun c hc =>
    CharClass.of_eq_digit_iff.mpr (hdigits c hc)
  have hahead : ∀ c ∈ rest.head?, CharClass.of c ≠ .digit := by
    intro c hc hdigit
    rw [CharClass.of_eq_digit_iff, hrest c hc] at hdigit
    cases hdigit
  rw [tokensOf_run_append hne hkind hahead, Token.ofRun?_of_isDigit hne hdigits]
  rfl

theorem tokensOf_zero_cons {c : Char} {front : List Char}
    (hfront : ∀ d ∈ front.getLast?, d.isDigit = false) (hc : c.isDigit = true)
    (rest : List Char) :
    tokensOf (front ++ '0' :: c :: rest) = tokensOf (front ++ c :: rest) := by
  have hstart : ∀ e cs, e.isDigit = true →
      tokensOf (front ++ e :: cs) = tokensOf front ++ tokensOf (e :: cs) := by
    intro e cs he
    apply tokensOf_append_of_ne
    rintro d hd e ⟨rfl⟩ hde
    rw [CharClass.of_eq_digit_iff.mpr he, CharClass.of_eq_digit_iff, hfront d hd] at hde
    cases hde
  -- The digits that the zero comes in front of, and what comes after them.
  let digits := c :: rest.takeWhile Char.isDigit
  let after := rest.dropWhile Char.isDigit
  have hsplit : c :: rest = digits ++ after :=
    congrArg (c :: ·) List.takeWhile_append_dropWhile.symm
  have hdigits : ∀ d ∈ digits, d.isDigit = true :=
    List.forall_mem_cons.mpr ⟨hc, List.all_eq_true.mp List.all_takeWhile⟩
  have hafter : Text.NoneAhead Char.isDigit after := Text.noneAhead_dropWhile rest
  have hzero : ∀ d ∈ '0' :: digits, d.isDigit = true := List.forall_mem_cons.mpr ⟨rfl, hdigits⟩
  rw [hstart '0' _ rfl, hstart c _ hc, hsplit, ← List.cons_append,
    tokensOf_digits_append (List.cons_ne_nil _ _) hzero hafter, stripZeros_zero_cons,
    tokensOf_digits_append (List.cons_ne_nil _ _) hdigits hafter]

/-! ## Separators between a digit and a letter -/

theorem CharClass.digit_letter_iff {c d : Char} :
    c.isDigit = true ∧ d.isAlpha = true ∨ c.isAlpha = true ∧ d.isDigit = true ↔
      of c ≠ of d ∧ of c ≠ separator ∧ of d ≠ separator := by
  rw [← of_eq_digit_iff, ← of_eq_letter_iff, ← of_eq_letter_iff, ← of_eq_digit_iff]
  cases of c <;> cases of d <;> decide

/-- Separators between characters of different kinds do not count. -/
theorem tokensOf_between {seps : List Char} {c d : Char}
    (hseps : ∀ s ∈ seps, s.isAlphanum = false) (hcd : CharClass.of c ≠ CharClass.of d)
    (front rest : List Char) :
    tokensOf (front ++ c :: (seps ++ d :: rest)) = tokensOf (front ++ c :: d :: rest) := by
  have hnear : tokensOf (front ++ [c] ++ d :: rest) =
      tokensOf (front ++ [c]) ++ tokensOf (d :: rest) := by
    apply tokensOf_append_of_ne
    rintro e he f ⟨rfl⟩
    rw [List.getLast?_concat] at he
    obtain rfl := Option.some.inj he
    exact hcd
  rw [List.append_cons front c (seps ++ d :: rest), List.append_cons front c (d :: rest), hnear]
  by_cases hne : seps = []
  · rw [hne, List.nil_append, hnear]
  · rw [← List.append_assoc, tokensOf_separated hne hseps]

/-! ## Other spellings -/

/-- One change of how a text is written. -/
inductive Respelling : List Char → List Char → Prop where
  /-- Separators are replaced by others. -/
  | separators {seps seps' : List Char} (hne : seps ≠ []) (hne' : seps' ≠ [])
      (hseps : ∀ s ∈ seps, s.isAlphanum = false) (hseps' : ∀ s ∈ seps', s.isAlphanum = false)
      (front rest : List Char) :
      Respelling (front ++ seps ++ rest) (front ++ seps' ++ rest)
  /-- A separator is put at the start. -/
  | first {s : Char} (hs : s.isAlphanum = false) (cs : List Char) : Respelling cs (s :: cs)
  /-- A separator is put at the end. -/
  | last {s : Char} (hs : s.isAlphanum = false) (cs : List Char) : Respelling cs (cs ++ [s])
  /-- Separators are put between a digit and a letter, whichever comes first. -/
  | between {seps : List Char} {c d : Char} (hseps : ∀ s ∈ seps, s.isAlphanum = false)
      (hcd : c.isDigit = true ∧ d.isAlpha = true ∨ c.isAlpha = true ∧ d.isDigit = true)
      (front rest : List Char) :
      Respelling (front ++ c :: d :: rest) (front ++ c :: (seps ++ d :: rest))
  /-- A zero is put in front of the digits of a number. -/
  | zero {c : Char} {front : List Char} (hfront : ∀ d ∈ front.getLast?, d.isDigit = false)
      (hc : c.isDigit = true) (rest : List Char) :
      Respelling (front ++ c :: rest) (front ++ '0' :: c :: rest)
  /-- A letter is put in another case. -/
  | case {c d : Char} (h : c.toLower = d.toLower) (front rest : List Char) :
      Respelling (front ++ c :: rest) (front ++ d :: rest)

theorem Respelling.tokensOf_folded {cs cs' : List Char} (h : Respelling cs cs') :
    (tokensOf cs).map Token.folded = (tokensOf cs').map Token.folded := by
  cases h with
  | separators hne hne' hseps hseps' front rest =>
    rw [tokensOf_separated hne hseps, tokensOf_separated hne' hseps']
  | first hs cs =>
    rw [← List.singleton_append, tokensOf_separators_append (List.forall_mem_singleton.mpr hs)]
  | last hs cs =>
    have hlast := tokensOf_separated (List.cons_ne_nil _ [])
      (List.forall_mem_singleton.mpr hs) cs []
    rw [List.append_nil] at hlast
    rw [hlast]
    exact congrArg _ (List.append_nil _).symm
  | between hseps hcd front rest =>
    rw [tokensOf_between hseps (CharClass.digit_letter_iff.mp hcd).1]
  | zero hfront hc rest => rw [tokensOf_zero_cons hfront hc]
  | case h front rest =>
    rw [← tokensOf_map_toLower, ← tokensOf_map_toLower]
    simp only [List.map_append, List.map_cons, h]

/-- Any number of changes, each of them one way or the other. -/
abbrev Respelled : List Char → List Char → Prop :=
  Relation.EqvGen Respelling

theorem Respelled.tokensOf_folded {cs cs' : List Char} (h : Respelled cs cs') :
    (tokensOf cs).map Token.folded = (tokensOf cs').map Token.folded := by
  induction h with
  | rel cs cs' hstep => exact hstep.tokensOf_folded
  | refl cs => rfl
  | symm cs cs' _ ih => exact ih.symm
  | trans cs cs' cs'' _ _ ih ih' => exact ih.trans ih'

/-! ## One spelling for all -/

/-- The characters of a token. -/
def Token.text : Token → List Char
  | number digits => digits
  | word letters => letters

/-- The spelling of tokens with a dot in front of each. -/
def dotted (ts : List Token) : List Char :=
  ts.flatMap fun t => '.' :: t.text

theorem respelled_stripZeros {digits : List Char} (hdigits : ∀ c ∈ digits, c.isDigit = true)
    (hne : digits ≠ []) (front rest : List Char) :
    Respelled (front ++ '.' :: (digits ++ rest)) (front ++ '.' :: (stripZeros digits ++ rest)) := by
  induction digits with
  | nil => exact absurd rfl hne
  | cons c digits ih =>
    have htail : ∀ d ∈ digits, d.isDigit = true := (List.forall_mem_cons.mp hdigits).2
    by_cases hzero : c = '0'
    · subst hzero
      cases digits with
      | nil => exact .refl _
      | cons d digits =>
        have hdot : ∀ e ∈ (front ++ ['.']).getLast?, e.isDigit = false := by
          rw [List.getLast?_concat]
          rintro e ⟨rfl⟩
          rfl
        have hstep := Respelling.zero hdot (htail d List.mem_cons_self) (digits ++ rest)
        rw [← List.append_cons, ← List.append_cons] at hstep
        rw [stripZeros_zero_cons]
        exact .trans _ _ _ (.symm _ _ (.rel _ _ hstep)) (ih htail (List.cons_ne_nil d digits))
    · have hstrip : stripZeros (c :: digits) = c :: digits := by
        rw [stripZeros, List.dropWhile_cons_of_neg (by simpa using hzero)]
      rw [hstrip]
      exact .refl _

theorem respelled_foldCase (letters front rest : List Char) :
    Respelled (front ++ (letters ++ rest)) (front ++ (foldCase letters ++ rest)) := by
  induction letters generalizing front with
  | nil => exact .refl _
  | cons c letters ih =>
    have hlower := (Text.toLower_toLower c).symm
    have hstep := Respelling.case hlower front (letters ++ rest)
    have hrest := ih (front ++ [c.toLower])
    rw [← List.append_cons, ← List.append_cons] at hrest
    exact .trans _ _ _ (.rel _ _ hstep) hrest

/-- A dot can be put wherever no run of digits or letters goes on. -/
theorem respelled_seam {front rest : List Char} (hseam : Seam front rest) :
    Respelled (front ++ rest) (front ++ '.' :: rest) := by
  have hdot : ∀ s ∈ ['.'], s.isAlphanum = false := List.forall_mem_singleton.mpr rfl
  apply Relation.EqvGen.rel
  cases rest with
  | nil =>
    rw [List.append_nil]
    exact .last rfl front
  | cons d rest =>
    rcases List.eq_nil_or_concat' front with rfl | ⟨front, c, rfl⟩
    · exact .first rfl (d :: rest)
    have hcd := hseam c List.getLast?_concat d rfl
    by_cases hd : d.isAlphanum = false
    · have hstep := Respelling.separators (List.cons_ne_nil d []) (List.cons_ne_nil '.' [d])
        (List.forall_mem_singleton.mpr hd)
        (List.forall_mem_cons.mpr ⟨rfl, List.forall_mem_singleton.mpr hd⟩) (front ++ [c]) rest
      simpa using hstep
    by_cases hc : c.isAlphanum = false
    · have hstep := Respelling.separators (List.cons_ne_nil c []) (List.cons_ne_nil c ['.'])
        (List.forall_mem_singleton.mpr hc) (List.forall_mem_cons.mpr ⟨hc, hdot⟩) front (d :: rest)
      simpa using hstep
    rw [← CharClass.of_eq_separator_iff] at hc hd
    rw [← List.append_cons, ← List.append_cons]
    have hne : CharClass.of c ≠ CharClass.of d := fun h => hc (hcd h)
    exact .between hdot (CharClass.digit_letter_iff.mpr ⟨hne, hc, hd⟩) front rest

/-- The text of the token of a run can stand for the run, and is of the kind of the
run. -/
theorem respelled_run {kind : CharClass} {run : List Char} {t : Token}
    (hrun : ∀ c ∈ run, CharClass.of c = kind) (ht : Token.ofRun? run = some t)
    (front rest : List Char) :
    Respelled (front ++ '.' :: (run ++ rest)) (front ++ '.' :: (t.folded.text ++ rest)) ∧
      t.folded.text ≠ [] ∧ ∀ c ∈ t.folded.text, CharClass.of c = kind := by
  cases run with
  | nil => cases ht
  | cons c cs =>
    rw [Token.ofRun?, hrun c List.mem_cons_self] at ht
    cases kind with
    | digit =>
      obtain rfl := Option.some.inj ht
      have hdigits : ∀ d ∈ c :: cs, d.isDigit = true := fun d hd =>
        CharClass.of_eq_digit_iff.mp (hrun d hd)
      have hstripped := isStripped_stripZeros hdigits
      refine ⟨respelled_stripZeros hdigits (List.cons_ne_nil c cs) front rest, hstripped.ne_nil,
        fun d hd => ?_⟩
      exact CharClass.of_eq_digit_iff.mpr (hstripped.isDigit d hd)
    | letter =>
      obtain rfl := Option.some.inj ht
      refine ⟨?_, List.cons_ne_nil _ _, ?_⟩
      · have hfold := respelled_foldCase (c :: cs) (front ++ ['.']) rest
        rwa [← List.append_cons, ← List.append_cons] at hfold
      · intro d hd
        obtain ⟨e, he, rfl⟩ := List.mem_map.mp hd
        rw [CharClass.of_toLower, hrun e he]
    | separator => cases ht

theorem isAlphanum_eq_false_of_ofRun?_eq_none {kind : CharClass} {run : List Char}
    (hrun : ∀ c ∈ run, CharClass.of c = kind) (hnone : Token.ofRun? run = none) :
    ∀ c ∈ run, c.isAlphanum = false := by
  intro c hc
  cases run with
  | nil => cases hc
  | cons d cs =>
    rw [Token.ofRun?, hrun d List.mem_cons_self] at hnone
    cases kind with
    | digit => cases hnone
    | letter => cases hnone
    | separator => exact CharClass.of_eq_separator_iff.mp (hrun c hc)

theorem respelled_dotted (cs front : List Char) :
    Respelled (front ++ '.' :: cs) (front ++ dotted ((tokensOf cs).map Token.folded)) := by
  induction cs using run_induction generalizing front with
  | nil =>
    have hlast : Respelling front (front ++ ['.']) := .last rfl front
    change Respelled (front ++ ['.']) (front ++ [])
    rw [List.append_nil]
    exact .symm _ _ (.rel _ _ hlast)
  | run kind run rest hne hrun hrest ih =>
    rw [tokensOf_run_append hne hrun hrest]
    cases htoken : Token.ofRun? run with
    | none =>
      have hseps := isAlphanum_eq_false_of_ofRun?_eq_none hrun htoken
      have hstep := Respelling.separators (List.cons_ne_nil '.' run) (List.cons_ne_nil '.' [])
        (List.forall_mem_cons.mpr ⟨rfl, hseps⟩) (List.forall_mem_singleton.mpr rfl) front rest
      rw [List.append_assoc, ← List.append_cons] at hstep
      exact .trans _ _ _ (.rel _ _ hstep) (ih front)
    | some t =>
      obtain ⟨htext, hne, hkind⟩ := respelled_run hrun htoken front rest
      have hseam : Seam (front ++ '.' :: t.folded.text) rest := by
        intro c hc d hd hcd
        rw [List.append_cons, List.getLast?_append_of_ne_nil _ hne] at hc
        exact absurd (hcd.symm.trans (hkind c (List.mem_of_getLast? hc))) (hrest d hd)
      have hdot := respelled_seam hseam
      have hmore := ih (front ++ '.' :: t.folded.text)
      rw [List.append_assoc, List.cons_append] at hdot
      have hdotted : dotted (((some t).toList ++ tokensOf rest).map Token.folded) =
          '.' :: t.folded.text ++ dotted ((tokensOf rest).map Token.folded) := by
        simp [dotted]
      rw [hdotted, ← List.append_assoc]
      exact .trans _ _ _ htext (.trans _ _ _ hdot hmore)

/-- Texts are different spellings of each other if and only if they have the same
tokens but for the case of letters. -/
theorem respelled_iff {cs cs' : List Char} : Respelled cs cs' ↔
    (tokensOf cs).map Token.folded = (tokensOf cs').map Token.folded := by
  constructor
  · exact Respelled.tokensOf_folded
  · intro hfolded
    have hdotted : ∀ cs, Respelled cs (dotted ((tokensOf cs).map Token.folded)) := by
      intro cs
      have hfirst : Respelling cs ('.' :: cs) := .first rfl cs
      exact .trans _ _ _ (.rel _ _ hfirst) (respelled_dotted cs [])
    have hcs' := hdotted cs'
    rw [← hfolded] at hcs'
    exact .trans _ _ _ (hdotted cs) (.symm _ _ hcs')

/-- However often a version is written in another way, it stands in the order where
it stood, and versions tie only if one is another way to write the other. -/
theorem compare_respelled (a a' : String) :
    (Respelled a.toList a'.toList → ∀ b,
      Version.compare a' b = Version.compare a b ∧ Version.compare b a' = Version.compare b a) ∧
    (Version.compare a a' = .eq ↔ Respelled a.toList a'.toList) := by
  have htie : Version.compare a a' = .eq ↔ Respelled a.toList a'.toList :=
    compare_eq_eq_iff.trans respelled_iff.symm
  refine ⟨fun h b => ?_, htie⟩
  have htie := htie.mpr h
  exact ⟨(Std.TransCmp.congr_left htie).symm, (Std.TransCmp.congr_right htie).symm⟩

/-- A version with another separator, without a zero, with a digit and a letter apart
and with a letter in another case. -/
theorem compare_elevenNineB_respelled :
    Respelled "11.09b".toList "11-9 B".toList ∧
    Version.compare "11-9 B" "11.9" = Version.compare "11.09b" "11.9" := by
  have hdot : ∀ s ∈ ['.'], s.isAlphanum = false := List.forall_mem_singleton.mpr rfl
  have hdash : ∀ s ∈ ['-'], s.isAlphanum = false := List.forall_mem_singleton.mpr rfl
  have hblank : ∀ s ∈ [' '], s.isAlphanum = false := List.forall_mem_singleton.mpr rfl
  have hseparators : Respelling "11.09b".toList "11-09b".toList :=
    .separators (List.cons_ne_nil _ _) (List.cons_ne_nil _ _) hdot hdash ['1', '1'] ['0', '9', 'b']
  have hfront : ∀ d ∈ ['1', '1', '-'].getLast?, d.isDigit = false := by
    rintro d ⟨rfl⟩
    rfl
  have hzero : Respelling "11-9b".toList "11-09b".toList := .zero (c := '9') hfront rfl ['b']
  have happart : Respelling "11-9b".toList "11-9 b".toList :=
    .between (c := '9') (d := 'b') hblank (.inl ⟨rfl, rfl⟩) ['1', '1', '-'] []
  have hcase : Respelling "11-9 b".toList "11-9 B".toList :=
    .case (c := 'b') (d := 'B') rfl ['1', '1', '-', '9', ' '] []
  have h : Respelled "11.09b".toList "11-9 B".toList :=
    .trans _ _ _ (.rel _ _ hseparators) <| .trans _ _ _ (.symm _ _ (.rel _ _ hzero)) <|
      .trans _ _ _ (.rel _ _ happart) (.rel _ _ hcase)
  exact ⟨h, ((compare_respelled "11.09b" "11-9 B").1 h "11.9").1⟩

end JdkCatalog.Version
