import JdkCatalog.Proofs.BuildNumber.RoundTrip
import JdkCatalog.Proofs.Version.MaximalRuns
import JdkCatalog.Text.Slice

/-!
# Where reading a build number stops

A text that is no build number is reported with the offset at which reading stopped.
The reader never goes back, except over the first letters where no dash ends them and
over a dot where no component comes after it, and this module says which places can
come out.

* `StartsWithComponent` says what a component can be read from.  A run of digits that
  does not start with a zero is read to its end or not at all.
* `Unbroken` says that no such run goes on from what was read to what was not.  It is
  kept by every component that is read (`unbroken_of_readComponents`).
* `LacksComponent` and `HasMore` are the two reasons to stop, and
  `Malformed.SplitsAt` is what holds at the place (`splitsAt_of_parse`).
* What was read is ASCII, so that the offset counts bytes as well as characters
  (`Malformed.SplitsAt.slices_eq`), and it is on the first line
  (`Malformed.SplitsAt.offset_le_firstLine`).
-/

namespace JdkCatalog.BuildNumber

/-! ## What a component can start with -/

/-- A text starts with something that can be read as a component.  Of a run of digits
that does not start with a zero nothing can be read but the whole. -/
inductive StartsWithComponent : List Char → Prop where
  | snapshot (rest : List Char) : StartsWithComponent ("SNAPSHOT".toList ++ rest)
  | star (rest : List Char) : StartsWithComponent ('*' :: rest)
  | zero (rest : List Char) : StartsWithComponent ('0' :: rest)
  | numeral {digits rest : List Char} (hne : digits ≠ [])
      (hdigits : ∀ c ∈ digits, c.isDigit = true) (hhead : digits.head? ≠ some '0')
      (hrest : Text.NoneAhead Char.isDigit rest)
      (hvalue : Nat.ofDigitChars 10 digits 0 ≤ 4294967295) : StartsWithComponent (digits ++ rest)

/-- No digit is left where a numeral has been read. -/
theorem noneAhead_of_readComponent? {c : Char} {cs rest : List Char} {n : UInt32}
    (hc : c.isDigit = true) (hzero : c ≠ '0') (h : readComponent? (c :: cs) = some (n, rest)) :
    Text.NoneAhead Char.isDigit rest := by
  rw [readComponent?_digit hc hzero] at h
  obtain ⟨-, heq⟩ := Option.ite_none_right_eq_some.mp h
  obtain ⟨-, rfl⟩ := Prod.mk.inj (Option.some.inj heq)
  exact Text.noneAhead_dropWhile cs

theorem startsWithComponent_of_readComponent? {cs rest : List Char} {n : UInt32}
    (h : readComponent? cs = some (n, rest)) : StartsWithComponent cs := by
  obtain ⟨part, rfl, hpart⟩ := exists_component_of_readComponent? h
  cases hpart with
  | snapshot => exact .snapshot rest
  | star => exact .star rest
  | numeral hnumeral =>
    obtain ⟨c, digits, rfl⟩ := List.exists_cons_of_ne_nil hnumeral.ne_nil
    by_cases hzero : c = '0'
    · rw [hzero]
      exact .zero _
    · have hrest : Text.NoneAhead Char.isDigit rest :=
        noneAhead_of_readComponent? (hnumeral.isDigit c List.mem_cons_self) hzero h
      have hvalue : Nat.ofDigitChars 10 (c :: digits) 0 ≤ 4294967295 :=
        hnumeral.value ▸ Nat.le_of_lt_succ n.toNat_lt
      exact .numeral hnumeral.ne_nil hnumeral.isDigit (by simpa using hzero) hrest hvalue

theorem StartsWithComponent.exists_readComponent? {cs : List Char} (h : StartsWithComponent cs) :
    ∃ n rest, readComponent? cs = some (n, rest) := by
  cases h with
  | snapshot rest => exact ⟨_, rest, rfl⟩
  | star rest => exact ⟨_, rest, rfl⟩
  | zero rest => exact ⟨0, rest, rfl⟩
  | numeral hne hdigits hhead hrest hvalue =>
    obtain ⟨c, digits, rfl⟩ := List.exists_cons_of_ne_nil hne
    have hnumeral := isNumeral_ofNat hdigits (by simpa using hhead) (Nat.lt_succ_of_le hvalue)
    exact ⟨_, _, readComponent?_append (.numeral hnumeral) hrest⟩

theorem startsWithComponent_iff {cs : List Char} :
    StartsWithComponent cs ↔ ∃ n rest, readComponent? cs = some (n, rest) :=
  ⟨StartsWithComponent.exists_readComponent?,
    fun ⟨_, _, h⟩ => startsWithComponent_of_readComponent? h⟩

theorem not_startsWithComponent_iff {cs : List Char} :
    ¬ StartsWithComponent cs ↔ readComponent? cs = none := by
  rw [startsWithComponent_iff, Option.eq_none_iff_forall_ne_some]
  simp

/-! ## No numeral is broken off -/

/-- A run of digits goes on from the one text to the other only if it is a zero that
it starts with. -/
def Unbroken (front rest : List Char) : Prop :=
  (∃ c ∈ front.getLast?, c.isDigit = true) → (∃ d ∈ rest.head?, d.isDigit = true) →
    ∃ before, front = before ++ ['0'] ∧ ∀ c ∈ before.getLast?, c.isDigit = false

theorem unbroken_of_last {front rest : List Char}
    (hfront : ∀ c ∈ front.getLast?, c.isDigit = false) : Unbroken front rest := by
  rintro ⟨c, hc, hdigit⟩ -
  rw [hfront c hc] at hdigit
  cases hdigit

theorem unbroken_of_head {front rest : List Char} (hrest : Text.NoneAhead Char.isDigit rest) :
    Unbroken front rest := by
  rintro - ⟨d, hd, hdigit⟩
  rw [hrest d hd] at hdigit
  cases hdigit

/-- What is read after something that is no digit does not break off a numeral. -/
theorem unbroken_of_readComponent? {before part rest : List Char} {n : UInt32}
    (hbefore : ∀ c ∈ before.getLast?, c.isDigit = false) (hpart : Component part n)
    (h : readComponent? (part ++ rest) = some (n, rest)) : Unbroken (before ++ part) rest := by
  have hword {d : Char} {rest' : List Char} (hd : d.isDigit = false) (part : List Char) :
      Unbroken (before ++ (part ++ [d])) rest' := by
    apply unbroken_of_last
    simpa [← List.append_assoc] using hd
  cases hpart with
  | snapshot => exact hword (d := 'T') rfl "SNAPSHO".toList
  | star => exact hword (d := '*') rfl []
  | numeral hnumeral =>
    obtain ⟨c, digits, rfl⟩ := List.exists_cons_of_ne_nil hnumeral.ne_nil
    by_cases hzero : c = '0'
    · subst hzero
      obtain rfl : digits = [] := List.tail_eq_of_cons_eq (hnumeral.leading rfl)
      exact fun _ _ => ⟨before, rfl, hbefore⟩
    · have hc := hnumeral.isDigit c List.mem_cons_self
      exact unbroken_of_head (noneAhead_of_readComponent? hc hzero h)

theorem unbroken_of_readComponents {cs rest taken before : List Char} {ns : List UInt32}
    (h : readComponents cs = (ns, rest)) (hcs : cs = taken ++ rest) (hbefore : Unbroken before cs) :
    Unbroken (before ++ taken) rest := by
  fun_induction readComponents cs generalizing ns rest taken before with
  | case1 body n after hread hlt ms left hafter ih =>
    obtain ⟨-, rfl⟩ := Prod.mk.inj h
    obtain ⟨part, rfl, hpart⟩ := exists_component_of_readComponent? hread
    obtain ⟨parts, rfl, -⟩ := exists_parts_of_readComponents hafter
    have htaken : '.' :: part ++ dotted parts ++ left = taken ++ left := by
      rw [← hcs]
      simp
    obtain rfl := List.append_cancel_right htaken
    have hdot : ∀ c ∈ (before ++ ['.']).getLast?, c.isDigit = false := by simp
    have hafter := ih hafter rfl (unbroken_of_readComponent? hdot hpart hread)
    simpa using hafter
  | case2 | case3 =>
    obtain ⟨-, rfl⟩ := Prod.mk.inj h
    obtain rfl : taken = [] := by simpa using hcs
    simpa using hbefore

/-- After the last component there is no dot with a component behind it. -/
theorem readComponent?_eq_none_of_readComponents {cs rest body : List Char} {ns : List UInt32}
    (h : readComponents cs = (ns, rest)) (hrest : rest = '.' :: body) :
    readComponent? body = none := by
  fun_induction readComponents cs generalizing ns rest with
  | case1 body n after hread hlt ms left hafter ih =>
    obtain ⟨-, rfl⟩ := Prod.mk.inj h
    exact ih hafter hrest
  | case2 body' hread =>
    obtain ⟨-, rfl⟩ := Prod.mk.inj h
    rwa [List.tail_eq_of_cons_eq hrest] at hread
  | case3 cs hdot =>
    obtain ⟨-, rfl⟩ := Prod.mk.inj h
    exact absurd hrest (hdot body)

/-! ## Where reading stops -/

/-- The front of a text is the code that it starts with, and its dash; it is empty if
the text starts with no code. -/
def IsCodeOf (cs front : List Char) : Prop :=
  (∃ code rest, cs = codeText (some code) ++ rest ∧ front = codeText (some code)) ∨
    (¬ ∃ code rest, cs = codeText (some code) ++ rest) ∧ front = []

/-- A text has no first component: after the code, if there is one, no component
starts. -/
structure LacksComponent (cs front rest : List Char) : Prop where
  code : IsCodeOf cs front
  refused : ¬ StartsWithComponent rest

/-- Something follows a build number, and it is not one more component of it. -/
structure HasMore (front rest : List Char) : Prop where
  accepted : ∃ b, parse (String.ofList front) = .ok b
  ne_nil : rest ≠ []
  noMore : ¬ ∃ body, rest = '.' :: body ∧ StartsWithComponent body

theorem isCodeOf_of_readCode {cs rest : List Char} {code : Option ProductCode}
    (h : readCode cs = (code, rest)) : IsCodeOf cs (codeText code) := by
  cases code with
  | some code => exact .inl ⟨code, rest, eq_codeText_append_of_readCode h, rfl⟩
  | none =>
    refine .inr ⟨?_, rfl⟩
    rintro ⟨code, after, rfl⟩
    rw [codeText, List.append_assoc, List.singleton_append, readCode_text] at h
    cases h

/-- Where reading stops the text falls into what was read and what was not. -/
structure Malformed.SplitsAt (e : Malformed) (front rest : List Char) : Prop where
  text_eq : Text.trim e.input.toList = front ++ rest
  offset_eq : e.offset = front.length
  isVisible : ∀ c ∈ front, Text.IsVisible c
  unbroken : Unbroken front rest
  reason : LacksComponent (front ++ rest) front rest ∧ e.stop = .noComponent ∨
    HasMore front rest ∧ e.stop = .trailing

theorem splitsAt_of_noComponent {s : String} {code : Option ProductCode} {body : List Char}
    (hcode : readCode (Text.trim s.toList) = (code, body)) (hfirst : readComponent? body = none) :
    Malformed.SplitsAt ⟨s, (Text.trim s.toList).length - body.length, .noComponent⟩
      (codeText code) body where
  text_eq := eq_codeText_append_of_readCode hcode
  offset_eq := by
    rw [eq_codeText_append_of_readCode hcode, List.length_append, Nat.add_sub_cancel]
  isVisible := isVisible_of_mem_codeText
  unbroken := by
    apply unbroken_of_last
    cases code <;> simp [codeText]
  reason := by
    refine .inl ⟨⟨?_, not_startsWithComponent_iff.mpr hfirst⟩, rfl⟩
    rw [← eq_codeText_append_of_readCode hcode]
    exact isCodeOf_of_readCode hcode

theorem splitsAt_of_trailing {s : String} {code : Option ProductCode}
    {body rest left : List Char} {n : UInt32} {ns : List UInt32}
    (hcode : readCode (Text.trim s.toList) = (code, body))
    (hfirst : readComponent? body = some (n, rest)) (hothers : readComponents rest = (ns, left))
    (hleft : left ≠ []) :
    ∃ front, Malformed.SplitsAt ⟨s, (Text.trim s.toList).length - left.length, .trailing⟩
      front left := by
  have htext := eq_codeText_append_of_readCode hcode
  obtain ⟨part, rfl, hpart⟩ := exists_component_of_readComponent? hfirst
  obtain ⟨parts, hrest, hparts⟩ := exists_parts_of_readComponents hothers
  have hspells : Spells (codeText code ++ (part ++ dotted parts)) code (part :: parts) (n :: ns) :=
    ⟨by rw [intercalate_dot], List.cons_ne_nil part parts, .cons hpart hparts⟩
  have hsplit : Text.trim s.toList = (codeText code ++ (part ++ dotted parts)) ++ left := by
    rw [htext, hrest]
    simp
  refine ⟨_, hsplit, ?_, hspells.isVisible, ?_, .inr ⟨⟨?_, hleft, ?_⟩, rfl⟩⟩
  · rw [hsplit, List.length_append, Nat.add_sub_cancel]
  · have hbefore : ∀ c ∈ (codeText code).getLast?, c.isDigit = false := by
      cases code <;> simp [codeText]
    rw [← List.append_assoc]
    exact unbroken_of_readComponents hothers hrest
      (unbroken_of_readComponent? hbefore hpart hfirst)
  · have htrimmed := hspells
    rw [← hspells.trim_eq, ← String.toList_ofList (l := codeText code ++ _)] at htrimmed
    exact ⟨⟨code, n :: ns, List.cons_ne_nil n ns⟩, parse_of_spells htrimmed⟩
  · rintro ⟨body, hbody, hstarts⟩
    exact not_startsWithComponent_iff.mpr
      (readComponent?_eq_none_of_readComponents hothers hbody) hstarts

theorem splitsAt_of_parse {s : String} {e : Malformed} (h : parse s = .error e) :
    e.input = s ∧ ∃ front rest, e.SplitsAt front rest := by
  unfold parse at h
  dsimp only at h
  rcases hcode : readCode (Text.trim s.toList) with ⟨code, body⟩
  rw [hcode] at h
  dsimp only at h
  split at h
  next hfirst =>
    cases h
    exact ⟨rfl, _, _, splitsAt_of_noComponent hcode hfirst⟩
  next n rest hfirst =>
    rcases hothers : readComponents rest with ⟨ns, left⟩
    rw [hothers] at h
    dsimp only at h
    split at h
    · contradiction
    next hleft =>
      cases h
      obtain ⟨front, hfront⟩ :=
        splitsAt_of_trailing hcode hfirst hothers (List.isEmpty_iff.not.mp hleft)
      exact ⟨rfl, front, left, hfront⟩

/-! ## The offset in bytes -/

/-- A place where no numeral is broken off is not inside a run of digits that starts
with another digit than zero. -/
theorem Unbroken.notInside {front rest before run after : List Char} (h : Unbroken front rest)
    (hmax : Version.MaximalRun (front ++ rest) .digit before run after)
    (hhead : run.head? ≠ some '0') :
    (Text.bytesOf front).length ≤ (Text.bytesOf before).length ∨
      (Text.bytesOf (before ++ run)).length ≤ (Text.bytesOf front).length := by
  have hle (cs ds : List Char) : (Text.bytesOf cs).length ≤ (Text.bytesOf (cs ++ ds)).length := by
    rw [Text.bytesOf_append, List.length_append]
    exact Nat.le_add_right _ _
  rcases List.append_eq_append_iff.mp hmax.text_eq with ⟨x, rfl, -⟩ | ⟨x, rfl, hrun⟩
  · exact .inl (hle front x)
  rcases List.append_eq_append_iff.mp hrun with ⟨y, rfl, -⟩ | ⟨y, rfl, rfl⟩
  · rw [← List.append_assoc]
    exact .inr (hle _ y)
  have hdigit : ∀ c ∈ x ++ y, c.isDigit = true := fun c hc =>
    Version.CharClass.of_eq_digit_iff.mp (hmax.isKind c hc)
  rcases List.eq_nil_or_concat' x with rfl | ⟨x, c, rfl⟩
  · exact .inl (by simp)
  cases y with
  | nil => exact .inr (by simp)
  | cons d y =>
    -- The run goes on over the place, so the place is after a zero that starts the run.
    obtain ⟨lead, hfront, hlead⟩ := h
      ⟨c, by rw [← List.append_assoc, List.getLast?_concat]; rfl, hdigit c (by simp)⟩
      ⟨d, rfl, hdigit d (by simp)⟩
    rw [← List.append_assoc] at hfront
    obtain ⟨rfl, hzero⟩ := List.append_inj' hfront rfl
    obtain rfl : c = '0' := List.head_eq_of_cons_eq hzero
    rcases List.eq_nil_or_concat' x with rfl | ⟨x, c, rfl⟩
    · exact absurd rfl hhead
    · have hc := hlead c (by rw [← List.append_assoc, List.getLast?_concat]; rfl)
      rw [hdigit c (by simp)] at hc
      cases hc

theorem Malformed.SplitsAt.offset_eq_length_bytesOf {e : Malformed} {front rest : List Char}
    (h : e.SplitsAt front rest) : e.offset = (Text.bytesOf front).length := by
  rw [h.offset_eq, Text.length_bytesOf_of_ascii fun c hc => (h.isVisible c hc).high]

/-- What was read and what was not are the slices on the two sides of the offset. -/
theorem Malformed.SplitsAt.slices_eq {e : Malformed} {front rest : List Char}
    (h : e.SplitsAt front rest) :
    let t := String.ofList (Text.trim e.input.toList)
    Text.slice? t 0 e.offset = some (String.ofList front) ∧
      Text.slice? t e.offset t.utf8ByteSize = some (String.ofList rest) := by
  have htext : String.ofList (Text.trim e.input.toList) =
      String.ofList front ++ String.ofList rest := by
    rw [h.text_eq, String.ofList_append]
  have hoffset : e.offset = (String.ofList front).utf8ByteSize := by
    rw [h.offset_eq_length_bytesOf, Text.utf8ByteSize_eq, String.toList_ofList]
  have hfront := Text.slice?_append "" (String.ofList front) (String.ofList rest)
  have hrest := Text.slice?_append (String.ofList front) (String.ofList rest) ""
  rw [String.empty_append] at hfront
  rw [String.append_empty] at hrest
  dsimp only
  rw [htext, hoffset]
  exact ⟨hfront, hrest⟩

/-! ## The message -/

/-- The message of an error shows the text over the caret; of a text of several lines
it shows the first one, which the caret does not leave. -/
structure Malformed.Shows (e : Malformed) (t : String) : Prop where
  oneLine : '\n' ∉ t.toList →
    e.message = "invalid build number '" ++ e.input ++ "': " ++ (t ++ "\n" ++
      (String.ofList (List.replicate e.offset ' ') ++ "^\n" ++ e.stop.reason))
  firstLine : ∀ line after : String, t = line ++ "\n" ++ after → '\n' ∉ line.toList →
    e.offset ≤ line.utf8ByteSize ∧
    e.message = "invalid build number '" ++ e.input ++ "': " ++
      ("parse error at line 1, column " ++ (e.offset + 1).repr ++ "\n  |\n1 | " ++ line ++
        "\n  | " ++ (String.ofList (List.replicate e.offset ' ') ++ "^\n" ++ e.stop.reason))

theorem Malformed.SplitsAt.offset_le_firstLine {e : Malformed} {front rest line after : List Char}
    (h : e.SplitsAt front rest) (hline : front ++ rest = line ++ '\n' :: after) :
    e.offset ≤ (Text.bytesOf line).length := by
  rw [h.offset_eq_length_bytesOf]
  rcases List.append_eq_append_iff.mp hline with ⟨x, rfl, -⟩ | ⟨x, rfl, hx⟩
  · rw [Text.bytesOf_append, List.length_append]
    exact Nat.le_add_right _ _
  · cases x with
    | nil => rw [List.append_nil]
    | cons c x =>
      obtain rfl : '\n' = c := List.head_eq_of_cons_eq hx
      exact absurd (h.isVisible '\n' (by simp)).low (by decide)

theorem Malformed.detail_of_oneLine {e : Malformed} (h : '\n' ∉ Text.trim e.input.toList) :
    e.detail = String.ofList (Text.trim e.input.toList) ++ "\n" ++ e.pointer :=
  if_neg (by rwa [List.contains_iff_mem])

theorem Malformed.detail_of_firstLine {e : Malformed} {line after : List Char}
    (h : Text.trim e.input.toList = line ++ '\n' :: after) (hline : '\n' ∉ line) :
    e.detail = "parse error at line 1, column " ++ (e.offset + 1).repr ++ "\n  |\n1 | " ++
      String.ofList line ++ "\n  | " ++ e.pointer := by
  have hfirst : (Text.trim e.input.toList).takeWhile (· != '\n') = line := by
    rw [h]
    apply Text.takeWhile_append_of_noneAhead
    · intro c hc
      exact bne_iff_ne.mpr fun heq => hline (heq ▸ hc)
    · exact Text.noneAhead_cons.mpr rfl
  rw [← hfirst]
  exact if_pos (by rw [List.contains_iff_mem, h]; simp)

theorem Malformed.SplitsAt.shows {e : Malformed} {front rest : List Char}
    (h : e.SplitsAt front rest) : e.Shows (String.ofList (Text.trim e.input.toList)) where
  oneLine hnewline := by
    rw [String.toList_ofList] at hnewline
    exact congrArg ("invalid build number '" ++ e.input ++ "': " ++ ·)
      (detail_of_oneLine hnewline)
  firstLine line after htext hline := by
    have htext : Text.trim e.input.toList = line.toList ++ '\n' :: after.toList := by
      rw [← String.toList_ofList (l := Text.trim _), htext]
      simp
    have hdetail := detail_of_firstLine htext hline
    rw [String.ofList_toList] at hdetail
    rw [Text.utf8ByteSize_eq]
    exact ⟨h.offset_le_firstLine (h.text_eq.symm.trans htext),
      congrArg ("invalid build number '" ++ e.input ++ "': " ++ ·) hdetail⟩

/-! ## The report of a text that is refused -/

/-- A text that is no build number is reported as it was given, with an offset into the
trimmed text at which a character starts.  Either what is before the offset is the code
and what is after it starts with no component, or what is before it is a build number
and what is after it does not go on with a component.  The offset is never inside a run
of digits that starts with another digit than zero, and the caret of the message is
under it. -/
theorem splits_of_parse_error {s : String} {e : Malformed} (h : parse s = .error e) :
    let t := String.ofList (Text.trim s.toList)
    e.input = s ∧ e.offset ≤ t.utf8ByteSize ∧ (⟨e.offset⟩ : String.Pos.Raw).IsValid t ∧
      (∃ front rest, Text.slice? t 0 e.offset = some front ∧
        Text.slice? t e.offset t.utf8ByteSize = some rest ∧
        Xor
          (LacksComponent t.toList front.toList rest.toList ∧
            e.stop.reason = "expected build component")
          (HasMore front.toList rest.toList ∧ e.stop.reason = "")) ∧
      (∀ before run after, Version.MaximalRun t.toList .digit before run after →
        run.head? ≠ some '0' →
        e.offset ≤ (Text.bytesOf before).length ∨
          (Text.bytesOf (before ++ run)).length ≤ e.offset) ∧
      e.Shows t := by
  obtain ⟨rfl, front, rest, hsplit⟩ := splitsAt_of_parse h
  obtain ⟨hfront, hrest⟩ := hsplit.slices_eq
  obtain ⟨hvalid, -, hle⟩ := Text.slice?_isSome_iff.mp (Option.isSome_of_eq_some hrest)
  refine ⟨rfl, hle, hvalid, ⟨_, _, hfront, hrest, ?_⟩, ?_, hsplit.shows⟩
  · simp only [String.toList_ofList, hsplit.text_eq]
    rcases hsplit.reason with ⟨hlacks, hstop⟩ | ⟨hmore, hstop⟩
    · rw [hstop]
      exact .inl ⟨⟨hlacks, rfl⟩, fun hreason => absurd hreason.2 (by decide)⟩
    · rw [hstop]
      exact .inr ⟨⟨hmore, rfl⟩, fun hreason => absurd hreason.2 (by decide)⟩
  · intro before run after hmax hhead
    rw [String.toList_ofList, hsplit.text_eq] at hmax
    rw [hsplit.offset_eq_length_bytesOf]
    exact hsplit.unbroken.notInside hmax hhead

/-- A numeral that is too large is left as a whole, and so is the dot before it. -/
theorem splits_of_overflowing_numeral :
    parse " IU-0.99999999999é\n" = .error ⟨" IU-0.99999999999é\n", 4, .trailing⟩ ∧
      ∃ front rest, Text.slice? "IU-0.99999999999é" 0 4 = some front ∧
        Text.slice? "IU-0.99999999999é" 4 18 = some rest ∧
        HasMore front.toList rest.toList := by
  have hparse : parse " IU-0.99999999999é\n" =
      .error ⟨" IU-0.99999999999é\n", 4, .trailing⟩ := by
    with_unfolding_all rfl
  have htrim : String.ofList (Text.trim " IU-0.99999999999é\n".toList) = "IU-0.99999999999é" := by
    decide +kernel
  obtain ⟨-, -, -, ⟨front, rest, hfront, hrest, hreason⟩, -, -⟩ := splits_of_parse_error hparse
  rw [htrim] at hfront hrest
  refine ⟨hparse, front, rest, hfront, hrest, ?_⟩
  rcases hreason with ⟨⟨-, hreason⟩, -⟩ | ⟨⟨hmore, -⟩, -⟩
  · exact absurd hreason (by decide)
  · exact hmore

end JdkCatalog.BuildNumber
