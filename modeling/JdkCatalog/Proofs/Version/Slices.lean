import JdkCatalog.Proofs.Version.MaximalRuns
import JdkCatalog.Version.Slices

/-!
# Tokens are cut out of bytes

The tokens of a version are cut out of its bytes, at offsets that two loops find.  The
loops only look for ASCII digits and letters, so an offset may seem to come out inside
a character of several bytes.  It never does, and what is cut out is what the version
has: its maximal runs of digits and of letters.

* `utf8EncodeChar_of_isAlphanum` and `isAlphanumByte_eq_false` relate the bytes that
  the loops look for to the characters.
* `runEnd_eq`, `slicesFrom_skip` and `slicesFrom_run` are about the loops, with what is
  left of the bytes at an offset as the state.  `slicesFrom_run_append` is their step
  over a run of the text, and `slices_eq` the whole pass.
* `Slice.Covers` says that a slice goes from end to end of a maximal run, and
  `mem_slices_iff` that the slices are those that do.  `mapM_slices_eq` turns what is
  made of the slices into what is made of the runs.
* `Token.StandsFor` says what a token keeps of its run.
-/

namespace JdkCatalog.Version

/-! ## The bytes of characters -/

theorem byteClass_ofNat {n : Nat} (hn : n < 0x80) :
    isAlphanumByte (UInt8.ofNat n) = (Char.ofNat n).isAlphanum ∧
      isDigitByte (UInt8.ofNat n) = (Char.ofNat n).isDigit := by
  revert n
  decide

theorem isAlphanumByte_ofNat {n : Nat} (hlow : 0x80 ≤ n) (hhigh : n < 0x100) :
    isAlphanumByte (UInt8.ofNat n) = false := by
  revert n
  decide

theorem toNat_lt_of_isAlphanum {c : Char} (hc : c.isAlphanum = true) : c.toNat < 0x80 := by
  rcases Bool.or_eq_true_iff.mp hc with halpha | hdigit
  · exact (Text.isVisible_of_isAlpha halpha).high
  · exact (Text.isVisible_of_isDigit hdigit).high

/-- A digit or a letter is one byte, of the same kind. -/
theorem utf8EncodeChar_of_isAlphanum {c : Char} (hc : c.isAlphanum = true) :
    ∃ b, String.utf8EncodeChar c = [b] ∧ isAlphanumByte b = true ∧ isDigitByte b = c.isDigit := by
  have hascii := toNat_lt_of_isAlphanum hc
  have hclass := byteClass_ofNat hascii
  rw [Char.ofNat_toNat] at hclass
  exact ⟨_, Text.utf8EncodeChar_of_ascii hascii, hclass.1.trans hc, hclass.2⟩

/-- No byte of another character is a digit or a letter. -/
theorem isAlphanumByte_eq_false {c : Char} (hc : c.isAlphanum = false) {b : UInt8}
    (hb : b ∈ String.utf8EncodeChar c) : isAlphanumByte b = false := by
  rcases Text.byte_cases hb with ⟨hascii, rfl⟩ | ⟨n, hlow, hhigh, rfl⟩
  · have hclass := (byteClass_ofNat hascii).1
    rwa [Char.ofNat_toNat, hc] at hclass
  · exact isAlphanumByte_ofNat hlow hhigh

/-! ## The loops -/

theorem getElem_of_drop {bytes rest : List UInt8} {b : UInt8} {i : Nat}
    (h : bytes.drop i = b :: rest) :
    ∃ hi : i < bytes.length, bytes[i] = b ∧ bytes.drop (i + 1) = rest := by
  have hi : i < bytes.length := by
    by_contra hge
    rw [List.drop_eq_nil_of_le (Nat.le_of_not_lt hge)] at h
    cases h
  rw [List.drop_eq_getElem_cons hi] at h
  exact ⟨hi, List.head_eq_of_cons_eq h, List.tail_eq_of_cons_eq h⟩

/-- The byte goes on a run of digits, or of letters. -/
def continues (isNumber : Bool) (b : UInt8) : Bool :=
  isAlphanumByte b && isDigitByte b == isNumber

/-- A run is followed as long as it goes on. -/
theorem runEnd_eq {bytes run rest : List UInt8} {isNumber : Bool}
    (hrun : ∀ b ∈ run, continues isNumber b = true)
    (hrest : ∀ b ∈ rest.head?, continues isNumber b = false) {stop : Nat}
    (hdrop : bytes.drop stop = run ++ rest) :
    runEnd bytes isNumber stop = stop + run.length := by
  induction run generalizing stop with
  | nil =>
    cases rest with
    | nil =>
      have hend : ¬ stop < bytes.length := Nat.not_lt.mpr (List.drop_eq_nil_iff.mp hdrop)
      rw [runEnd, dif_neg hend]
      rfl
    | cons b rest =>
      obtain ⟨hlt, rfl, -⟩ := getElem_of_drop hdrop
      have hb : ¬ continues isNumber bytes[stop] = true := by simp [hrest _ rfl]
      rw [runEnd, dif_pos hlt]
      exact if_neg hb
  | cons b run ih =>
    obtain ⟨hlt, rfl, hnext⟩ := getElem_of_drop hdrop
    obtain ⟨hb, hrun⟩ := List.forall_mem_cons.mp hrun
    rw [runEnd, dif_pos hlt, List.length_cons]
    refine (if_pos hb).trans ?_
    rw [ih hrun hnext]
    omega

/-- Bytes that are neither digits nor letters are skipped. -/
theorem slicesFrom_skip {bytes skipped rest : List UInt8}
    (hskipped : ∀ b ∈ skipped, isAlphanumByte b = false) {start : Nat}
    (hdrop : bytes.drop start = skipped ++ rest) :
    slicesFrom bytes start = slicesFrom bytes (start + skipped.length) := by
  induction skipped generalizing start with
  | nil => rfl
  | cons b skipped ih =>
    obtain ⟨hlt, rfl, hnext⟩ := getElem_of_drop hdrop
    obtain ⟨hb, hskipped⟩ := List.forall_mem_cons.mp hskipped
    have hstep : slicesFrom bytes start = slicesFrom bytes (start + 1) := by
      rw [slicesFrom, dif_pos hlt, dif_neg (by simp [hb])]
    rw [hstep, ih hskipped hnext, List.length_cons, Nat.add_assoc, Nat.add_comm 1]

/-- A run becomes a slice. -/
theorem slicesFrom_run {bytes run rest : List UInt8} {isNumber : Bool} (hne : run ≠ [])
    (hrun : ∀ b ∈ run, continues isNumber b = true)
    (hrest : ∀ b ∈ rest.head?, continues isNumber b = false) {start : Nat}
    (hdrop : bytes.drop start = run ++ rest) :
    slicesFrom bytes start =
      ⟨start, start + run.length, isNumber⟩ :: slicesFrom bytes (start + run.length) := by
  obtain ⟨b, more, rfl⟩ := List.exists_cons_of_ne_nil hne
  obtain ⟨hlt, rfl, -⟩ := getElem_of_drop hdrop
  have hb := hrun _ List.mem_cons_self
  simp only [continues, Bool.and_eq_true, beq_iff_eq] at hb
  obtain ⟨halphanum, rfl⟩ := hb
  rw [slicesFrom, dif_pos hlt, dif_pos halphanum]
  simp only [runEnd_eq hrun hrest hdrop]

/-! ## Slices of runs -/

/-- The slice of a run at an offset, unless the run is one of separators. -/
def Slice.ofRun? (offset : Nat) : List Char → Option Slice
  | [] => none
  | c :: run =>
    let stop := offset + (Text.bytesOf (c :: run)).length
    match CharClass.of c with
    | .digit => some ⟨offset, stop, true⟩
    | .letter => some ⟨offset, stop, false⟩
    | .separator => none

/-- A byte goes on a run of a kind if its character is of the kind. -/
theorem continues_eq {kind : CharClass} (hkind : kind ≠ .separator) {c : Char} {b : UInt8}
    (hb : b ∈ String.utf8EncodeChar c) :
    continues (decide (kind = .digit)) b = decide (CharClass.of c = kind) := by
  by_cases hc : c.isAlphanum = true
  · obtain ⟨b', hb', halphanum, hdigit⟩ := utf8EncodeChar_of_isAlphanum hc
    obtain rfl : b = b' := List.mem_singleton.mp (hb' ▸ hb)
    have hclass : c.isDigit = decide (CharClass.of c = .digit) := by
      rw [Bool.eq_iff_iff, decide_eq_true_iff, CharClass.of_eq_digit_iff]
    have hne : CharClass.of c ≠ .separator := by
      rw [ne_eq, CharClass.of_eq_separator_iff, hc]
      decide
    rw [continues, halphanum, hdigit, hclass, Bool.true_and]
    revert hne hkind
    cases CharClass.of c <;> cases kind <;> decide
  · have hc : c.isAlphanum = false := Bool.not_eq_true _ ▸ hc
    rw [continues, isAlphanumByte_eq_false hc hb, CharClass.of_eq_separator_iff.mpr hc]
    exact (decide_eq_false hkind.symm).symm

theorem Slice.ofRun?_eq {kind : CharClass} {run : List Char} (hne : run ≠ [])
    (hrun : ∀ c ∈ run, CharClass.of c = kind) (offset : Nat) :
    Slice.ofRun? offset run =
      if kind = .separator then none
      else some ⟨offset, offset + (Text.bytesOf run).length, decide (kind = .digit)⟩ := by
  obtain ⟨c, more, rfl⟩ := List.exists_cons_of_ne_nil hne
  rw [Slice.ofRun?, hrun c List.mem_cons_self]
  cases kind <;> rfl

/-- A run of separators is passed over, and any other run is taken whole. -/
theorem slicesFrom_run_append {kind : CharClass} {run rest : List Char} (hne : run ≠ [])
    (hrun : ∀ c ∈ run, CharClass.of c = kind) (hrest : ∀ c ∈ rest.head?, CharClass.of c ≠ kind)
    {bytes : List UInt8} {start : Nat}
    (hdrop : bytes.drop start = Text.bytesOf run ++ Text.bytesOf rest) :
    slicesFrom bytes start = (Slice.ofRun? start run).toList ++
      slicesFrom bytes (start + (Text.bytesOf run).length) := by
  rw [Slice.ofRun?_eq hne hrun]
  by_cases hkind : kind = .separator
  · have hskipped : ∀ b ∈ Text.bytesOf run, isAlphanumByte b = false := by
      intro b hb
      obtain ⟨c, hc, hb⟩ := List.mem_flatMap.mp hb
      exact isAlphanumByte_eq_false
        (CharClass.of_eq_separator_iff.mp ((hrun c hc).trans hkind)) hb
    rw [if_pos hkind]
    exact slicesFrom_skip hskipped hdrop
  · have hgoesOn : ∀ b ∈ Text.bytesOf run, continues (decide (kind = .digit)) b = true := by
      intro b hb
      obtain ⟨c, hc, hb⟩ := List.mem_flatMap.mp hb
      rw [continues_eq hkind hb]
      exact decide_eq_true (hrun c hc)
    have hends : ∀ b ∈ (Text.bytesOf rest).head?,
        continues (decide (kind = .digit)) b = false := by
      intro b hb
      obtain ⟨c, hc, hb⟩ := Text.exists_head_of_bytesOf hb
      rw [continues_eq hkind hb]
      exact decide_eq_false (hrest c hc)
    rw [if_neg hkind]
    exact slicesFrom_run (Text.bytesOf_ne_nil hne) hgoesOn hends hdrop

/-- The slices are the runs of digits and letters at their offsets. -/
theorem slicesFrom_eq {bytes : List UInt8} (cs : List Char) {start : Nat}
    (hdrop : bytes.drop start = Text.bytesOf cs) :
    slicesFrom bytes start =
      (placedFrom start (runs cs)).filterMap fun placed => Slice.ofRun? placed.1 placed.2 := by
  induction cs using run_induction generalizing start with
  | nil =>
    have hend : ¬ start < bytes.length := Nat.not_lt.mpr (List.drop_eq_nil_iff.mp hdrop)
    rw [slicesFrom, dif_neg hend]
    rfl
  | run kind run rest hne hrun hrest ih =>
    rw [Text.bytesOf_append] at hdrop
    have hnext : bytes.drop (start + (Text.bytesOf run).length) = Text.bytesOf rest := by
      rw [← List.drop_drop, hdrop, List.drop_left]
    rw [slicesFrom_run_append hne hrun hrest hdrop, ih hnext, runs_run_append hne hrun hrest,
      placedFrom, List.filterMap_cons]
    cases Slice.ofRun? start run <;> rfl

theorem slices_eq (version : String) :
    slices version =
      (placedFrom 0 (runs version.toList)).filterMap fun placed =>
        Slice.ofRun? placed.1 placed.2 :=
  slicesFrom_eq version.toList (Text.utf8_eq_bytesOf version)

/-! ## Slices and maximal runs -/

/-- A number is a run of digits, and a word is one of letters. -/
def Slice.kind (slice : Slice) : CharClass :=
  if slice.isNumber then .digit else .letter

/-- The slice goes from end to end of a maximal run of its kind. -/
def Slice.Covers (version : String) (slice : Slice) (run : List Char) : Prop :=
  ∃ front rest, MaximalRun version.toList slice.kind front run rest ∧
    slice.start = (Text.bytesOf front).length ∧
    slice.stop = (Text.bytesOf (front ++ run)).length

theorem Slice.kind_of_decide {kind : CharClass} (hkind : kind ≠ .separator) (start stop : Nat) :
    Slice.kind ⟨start, stop, decide (kind = .digit)⟩ = kind := by
  cases kind with
  | digit | letter => rfl
  | separator => contradiction

/-- A run at its place in a version becomes a slice that covers it, unless it is a
run of separators. -/
theorem covers_of_placed {version : String} {offset : Nat} {run : List Char}
    (hplaced : (offset, run) ∈ placedFrom 0 (runs version.toList)) :
    Slice.ofRun? offset run = none ∧ (∀ c ∈ run, CharClass.of c = .separator) ∨
      ∃ slice, Slice.ofRun? offset run = some slice ∧ slice.Covers version run := by
  obtain ⟨kind, front, rest, hmax, rfl⟩ := mem_placedFrom_runs_iff.mp hplaced
  rw [Slice.ofRun?_eq hmax.ne_nil hmax.isKind]
  by_cases hkind : kind = .separator
  · rw [if_pos hkind]
    exact .inl ⟨rfl, hkind ▸ hmax.isKind⟩
  · rw [if_neg hkind]
    refine .inr ⟨_, rfl, front, rest, ?_, Nat.zero_add _, ?_⟩
    · rwa [Slice.kind_of_decide hkind]
    · rw [Text.bytesOf_append, List.length_append, Nat.zero_add]

theorem mem_slices_iff {version : String} {slice : Slice} :
    slice ∈ slices version ↔ ∃ run, slice.Covers version run := by
  rw [slices_eq, List.mem_filterMap]
  constructor
  · rintro ⟨⟨offset, run⟩, hplaced, hslice⟩
    rcases covers_of_placed hplaced with ⟨hnone, -⟩ | ⟨slice', hsome, hcovers⟩
    · cases hnone.symm.trans hslice
    · obtain rfl := Option.some.inj (hsome.symm.trans hslice)
      exact ⟨run, hcovers⟩
  · rintro ⟨run, front, rest, hmax, hstart, hstop⟩
    refine ⟨((Text.bytesOf front).length, run), ?_, ?_⟩
    · exact mem_placedFrom_runs_iff.mpr ⟨_, front, rest, hmax, (Nat.zero_add _).symm⟩
    · obtain ⟨start, stop, isNumber⟩ := slice
      rw [Slice.ofRun?_eq hmax.ne_nil hmax.isKind]
      cases isNumber <;> simp_all [Slice.kind]

/-- Of two slices that touch, one is a number and the other a word. -/
theorem Slice.Covers.isNumber_ne {version : String} {a b : Slice} {run run' : List Char}
    (ha : a.Covers version run) (hb : b.Covers version run') (htouch : a.stop = b.start) :
    a.isNumber ≠ b.isNumber := by
  obtain ⟨front, rest, hmax, -, hstop⟩ := ha
  obtain ⟨front', rest', hmax', hstart, -⟩ := hb
  have htext : (front ++ run) ++ rest = front' ++ (run' ++ rest') := by
    rw [List.append_assoc, ← hmax.text_eq, hmax'.text_eq]
  obtain ⟨-, rfl⟩ := Text.append_inj_of_length_bytesOf htext (by rw [← hstop, htouch, hstart])
  obtain ⟨c, more, rfl⟩ := List.exists_cons_of_ne_nil hmax'.ne_nil
  have hkind := hmax.finish c rfl
  rw [hmax'.isKind c List.mem_cons_self] at hkind
  intro heq
  simp [Slice.kind, heq] at hkind

/-- The slice can be cut out, and is the run. -/
theorem Slice.Covers.text?_eq {version : String} {slice : Slice} {run : List Char}
    (h : slice.Covers version run) : slice.text? version = some run := by
  obtain ⟨front, rest, hmax, hstart, hstop⟩ := h
  have hlength (cs : List Char) : (Text.bytesOf cs).length = (String.ofList cs).utf8ByteSize := by
    rw [Text.utf8ByteSize_eq, String.toList_ofList]
  have hversion : version =
      String.ofList front ++ String.ofList run ++ String.ofList rest := by
    apply String.toList_inj.mp
    simp [hmax.text_eq]
  have hcut := Text.slice?_append (String.ofList front) (String.ofList run) (String.ofList rest)
  rw [← hversion, ← String.ofList_append, ← hlength, ← hlength, ← hstart, ← hstop] at hcut
  rw [Slice.text?, hcut, Option.map_some, String.toList_ofList]

/-! ## Runs and their tokens -/

/-- What a token says of the run that it stands for. -/
inductive Token.StandsFor : Token → List Char → Prop where
  /-- The zeros in front of a number are left out. -/
  | number (zeros : Nat) {digits : List Char} (hne : digits ≠ [])
      (hdigits : ∀ c ∈ digits, c.isDigit = true) (hhead : digits.head? ≠ some '0') :
      StandsFor (number digits) (List.replicate zeros '0' ++ digits)
  /-- One of several zeros is kept. -/
  | zero (zeros : Nat) : StandsFor (number ['0']) (List.replicate (zeros + 1) '0')
  /-- The letters of a word are kept. -/
  | word {letters : List Char} (hne : letters ≠ [])
      (hletters : ∀ c ∈ letters, c.isAlpha = true) : StandsFor (word letters) letters

theorem standsFor_stripZeros {run : List Char} (hne : run ≠ [])
    (hdigits : ∀ c ∈ run, c.isDigit = true) :
    Token.StandsFor (.number (stripZeros run)) run := by
  have hzeros : run.takeWhile (· = '0') =
      List.replicate (run.takeWhile (· = '0')).length '0' :=
    List.eq_replicate_of_mem fun c hc =>
      of_decide_eq_true (List.all_eq_true.mp List.all_takeWhile c hc)
  have hsplit : run.takeWhile (· = '0') ++ run.dropWhile (· = '0') = run :=
    List.takeWhile_append_dropWhile
  rw [stripZeros]
  split
  next hdrop =>
    rw [hdrop, List.append_nil] at hsplit
    rw [hsplit] at hzeros
    obtain ⟨zeros, hlength⟩ := Nat.exists_eq_succ_of_ne_zero (List.length_pos_of_ne_nil hne).ne'
    rw [hzeros, hlength]
    exact .zero zeros
  next hdrop =>
    have hstands := Token.StandsFor.number (run.takeWhile (· = '0')).length hdrop
      (fun c hc => hdigits c ((List.dropWhile_sublist _).mem hc))
      (fun hhead => of_decide_eq_false (Text.noneAhead_dropWhile run '0' hhead) rfl)
    rwa [← hzeros, hsplit] at hstands

theorem Slice.Covers.ofRun?_eq {version : String} {slice : Slice} {run : List Char}
    (h : slice.Covers version run) : Token.ofRun? run = some (slice.token run) := by
  obtain ⟨front, rest, ⟨-, hne, hrun, -, -⟩, -, -⟩ := h
  obtain ⟨c, more, rfl⟩ := List.exists_cons_of_ne_nil hne
  rw [Token.ofRun?, hrun c List.mem_cons_self, Slice.kind, Slice.token]
  cases slice.isNumber <;> rfl

theorem Slice.Covers.standsFor {version : String} {slice : Slice} {run : List Char}
    (h : slice.Covers version run) : (slice.token run).StandsFor run := by
  obtain ⟨front, rest, ⟨-, hne, hrun, -, -⟩, -, -⟩ := h
  rw [Slice.kind] at hrun
  rw [Slice.token]
  cases hnumber : slice.isNumber with
  | true =>
    rw [hnumber] at hrun
    exact standsFor_stripZeros hne fun c hc => CharClass.of_eq_digit_iff.mp (hrun c hc)
  | false =>
    rw [hnumber] at hrun
    exact .word hne fun c hc => CharClass.of_eq_letter_iff.mp (hrun c hc)

/-- What holds of no slices and no runs, and is kept when a run of separators is put in
front, and when a slice and the run that it covers are, holds of the slices and the runs
of a version. -/
theorem covered_induction {version : String} {motive : List Slice → List (List Char) → Prop}
    (nil : motive [] [])
    (separators : ∀ slices run rest, (∀ c ∈ run, CharClass.of c = .separator) →
      motive slices rest → motive slices (run :: rest))
    (covered : ∀ slice slices run rest, slice.Covers version run →
      motive slices rest → motive (slice :: slices) (run :: rest)) :
    motive (slices version) (runs version.toList) := by
  have hplaced : ∀ placed : List (Nat × List Char),
      (∀ p ∈ placed, p ∈ placedFrom 0 (runs version.toList)) →
      motive (placed.filterMap fun p => Slice.ofRun? p.1 p.2) (placed.map Prod.snd) := by
    intro placed
    induction placed with
    | nil => exact fun _ => nil
    | cons p placed ih =>
      intro hmem
      obtain ⟨hp, hrest⟩ := List.forall_mem_cons.mp hmem
      rw [List.filterMap_cons, List.map_cons]
      rcases covers_of_placed hp with ⟨hslice, hseparators⟩ | ⟨slice, hslice, hcovers⟩
      · rw [hslice]
        exact separators _ _ _ hseparators (ih hrest)
      · rw [hslice]
        exact covered slice _ _ _ hcovers (ih hrest)
  have hall := hplaced _ fun _ hp => hp
  rwa [← slices_eq, map_snd_placedFrom] at hall

/-- What is made of the slices is what is made of the runs that they cover. -/
theorem mapM_slices_eq {α : Type} {version : String} {f : Slice → Option α}
    {g : List Char → Option α}
    (hcovered : ∀ slice run, slice.Covers version run → ∃ a, f slice = some a ∧ g run = some a)
    (hseparators : ∀ run, (∀ c ∈ run, CharClass.of c = .separator) → g run = none) :
    (slices version).mapM f = some ((runs version.toList).filterMap g) := by
  refine covered_induction (motive := fun slices runs => slices.mapM f = some (runs.filterMap g))
    rfl (fun slices run rest hrun ih => ?_) (fun slice slices run rest h ih => ?_)
  · rw [List.filterMap_cons, hseparators run hrun]
    exact ih
  · obtain ⟨a, hf, hg⟩ := hcovered slice run h
    rw [List.filterMap_cons, hg]
    simp [hf, ih]

theorem ofRun?_of_separators {run : List Char}
    (hrun : ∀ c ∈ run, CharClass.of c = .separator) : Token.ofRun? run = none := by
  cases run with
  | nil => rfl
  | cons c run => rw [Token.ofRun?, hrun c List.mem_cons_self]

theorem cutTokens?_eq (version : String) : cutTokens? version = some (tokens version) := by
  refine mapM_slices_eq (fun slice run h => ⟨slice.token run, ?_, h.ofRun?_eq⟩) fun run hrun => ?_
  · rw [h.text?_eq]
    rfl
  · exact ofRun?_of_separators hrun

/-! ## The texts of the slices -/

/-- A run, unless it is one of separators. -/
def runText? (run : List Char) : Option (List Char) :=
  if run.any Char.isAlphanum then some run else none

theorem runText?_of_separators {run : List Char}
    (hrun : ∀ c ∈ run, CharClass.of c = .separator) : runText? run = none := by
  have hany : ¬ run.any Char.isAlphanum = true := by
    rw [List.any_eq_true]
    rintro ⟨c, hc, halphanum⟩
    rw [CharClass.of_eq_separator_iff.mp (hrun c hc)] at halphanum
    cases halphanum
  rw [runText?, if_neg hany]

theorem Slice.Covers.isAlphanum {version : String} {slice : Slice} {run : List Char}
    (h : slice.Covers version run) : ∀ c ∈ run, c.isAlphanum = true := by
  obtain ⟨front, rest, hmax, -, -⟩ := h
  intro c hc
  by_contra hsep
  have hkind := hmax.isKind c hc
  rw [CharClass.of_eq_separator_iff.mpr (Bool.not_eq_true _ ▸ hsep), Slice.kind] at hkind
  cases hnumber : slice.isNumber <;> rw [hnumber] at hkind <;> cases hkind

theorem Slice.Covers.runText?_eq {version : String} {slice : Slice} {run : List Char}
    (h : slice.Covers version run) : runText? run = some run := by
  obtain ⟨c, more, rfl⟩ := List.exists_cons_of_ne_nil h.choose_spec.choose_spec.1.ne_nil
  rw [runText?, List.any_cons, h.isAlphanum c List.mem_cons_self, Bool.true_or, if_pos rfl]

theorem texts_slices_eq (version : String) :
    (slices version).mapM (Slice.text? version) =
      some ((runs version.toList).filterMap runText?) :=
  mapM_slices_eq (fun _ run h => ⟨run, h.text?_eq, h.runText?_eq⟩)
    fun _ hrun => runText?_of_separators hrun

/-- The texts put together are the version without its separators. -/
theorem flatten_texts (version : String) :
    ((runs version.toList).filterMap runText?).flatten =
      version.toList.filter Char.isAlphanum := by
  have hfilter : ((runs version.toList).filterMap runText?).flatten =
      (runs version.toList).flatten.filter Char.isAlphanum := by
    refine covered_induction (motive := fun _ runs =>
        (runs.filterMap runText?).flatten = runs.flatten.filter Char.isAlphanum)
      rfl (fun _ run rest hrun ih => ?_) (fun slice _ run rest h ih => ?_)
    · have hnone : run.filter Char.isAlphanum = [] := by
        apply List.filter_eq_nil_iff.mpr
        intro c hc
        simp [CharClass.of_eq_separator_iff.mp (hrun c hc)]
      rw [List.filterMap_cons, runText?_of_separators hrun, List.flatten_cons,
        List.filter_append, hnone, List.nil_append]
      exact ih
    · rw [List.filterMap_cons, h.runText?_eq, List.flatten_cons, List.flatten_cons,
        List.filter_append, List.filter_eq_self.mpr h.isAlphanum, ih]
  rw [hfilter, runs, List.flatten_splitBy]

theorem tokens_standFor_texts (version : String) :
    List.Forall₂ Token.StandsFor (tokens version)
      ((runs version.toList).filterMap runText?) := by
  rw [tokens]
  refine covered_induction (motive := fun _ runs => List.Forall₂ Token.StandsFor
      (runs.filterMap Token.ofRun?) (runs.filterMap runText?))
    .nil (fun _ run rest hrun ih => ?_) (fun slice _ run rest h ih => ?_)
  · rw [List.filterMap_cons, List.filterMap_cons, ofRun?_of_separators hrun,
      runText?_of_separators hrun]
    exact ih
  · rw [List.filterMap_cons, List.filterMap_cons, h.ofRun?_eq, h.runText?_eq]
    exact .cons h.standsFor ih

/-! ## The order of the slices -/

theorem Slice.offsets_of_ofRun? {offset : Nat} {run : List Char} {slice : Slice}
    (h : Slice.ofRun? offset run = some slice) :
    slice.start = offset ∧ slice.stop = offset + (Text.bytesOf run).length := by
  cases run with
  | nil => cases h
  | cons c run =>
    rw [Slice.ofRun?] at h
    split at h
    case h_3 => cases h
    all_goals
      obtain rfl := Option.some.inj h
      exact ⟨rfl, rfl⟩

/-- Each slice stands before those after it. -/
theorem pairwise_slices (version : String) :
    (slices version).Pairwise fun a b => a.stop ≤ b.start := by
  rw [slices_eq]
  refine (pairwise_placedFrom 0 (runs version.toList)).filterMap _ ?_
  intro p q hpq a ha b hb
  rw [(Slice.offsets_of_ofRun? ha).2, (Slice.offsets_of_ofRun? hb).1]
  exact hpq

theorem Slice.Covers.bounds {version : String} {slice : Slice} {run : List Char}
    (h : slice.Covers version run) :
    slice.start < slice.stop ∧ (⟨slice.start⟩ : String.Pos.Raw).IsValid version ∧
      (⟨slice.stop⟩ : String.Pos.Raw).IsValid version := by
  have hcut : (Text.slice? version slice.start slice.stop).isSome = true := by
    rw [← Option.isSome_map, ← Slice.text?, h.text?_eq]
    rfl
  obtain ⟨hstart, hstop, -⟩ := Text.slice?_isSome_iff.mp hcut
  obtain ⟨front, rest, hmax, hlength, hlength'⟩ := h
  have hpos := List.length_pos_of_ne_nil (Text.bytesOf_ne_nil hmax.ne_nil)
  rw [Text.bytesOf_append, List.length_append] at hlength'
  exact ⟨by omega, hstart, hstop⟩

/-! ## The tokens of a version -/

/-- Every version can be cut at its slices, and that gives its tokens.  The slices are
the maximal runs of digits and of letters, in order; two that touch are of different
kinds.  Their texts put together are the version without its separators, and each
token says what the text of its slice is. -/
theorem cutTokens?_maximalRuns (version : String) :
    cutTokens? version = some (tokens version) ∧
      (∀ slice, slice ∈ slices version ↔ ∃ run, slice.Covers version run) ∧
      ((slices version).Pairwise fun a b => a.stop ≤ b.start) ∧
      (∀ slice ∈ slices version, slice.start < slice.stop ∧
        (⟨slice.start⟩ : String.Pos.Raw).IsValid version ∧
        (⟨slice.stop⟩ : String.Pos.Raw).IsValid version) ∧
      (∀ a ∈ slices version, ∀ b ∈ slices version,
        a.stop = b.start → a.isNumber ≠ b.isNumber) ∧
      ∃ texts, (slices version).mapM (Slice.text? version) = some texts ∧
        texts.flatten = version.toList.filter Char.isAlphanum ∧
        List.Forall₂ Token.StandsFor (tokens version) texts := by
  refine ⟨cutTokens?_eq version, fun _ => mem_slices_iff, pairwise_slices version, ?_, ?_,
    _, texts_slices_eq version, flatten_texts version, tokens_standFor_texts version⟩
  · intro slice hslice
    obtain ⟨run, hcovers⟩ := mem_slices_iff.mp hslice
    exact hcovers.bounds
  · intro a ha b hb htouch
    obtain ⟨run, hcovers⟩ := mem_slices_iff.mp ha
    obtain ⟨run', hcovers'⟩ := mem_slices_iff.mp hb
    exact hcovers.isNumber_ne hcovers' htouch

end JdkCatalog.Version
