import JdkCatalog.BuildNumber.Grammar
import JdkCatalog.Proofs.Text.Decimal
import JdkCatalog.Proofs.Text.Delimited

/-!
# The grammar of build numbers

Build numbers are read by scanners that take what they can from the front of a
text and never go back.  This module states the grammar as relations between
texts and what they say, and shows that the scanners read it: nothing else is
accepted, and nothing of it is refused.

* `IsNumeral`, `Component` and `Spells` are the grammar.  No part of a build
  number has a dot or a dash in it, so a text can be spelled in one way only
  (`Spells.unique`).
* Each scanner has two lemmas.  What it reads is of the grammar
  (`exists_component_of_readComponent?`, `exists_parts_of_readComponents`,
  `eq_codeText_append_of_readCode`), and what is of the grammar it reads
  (`readComponent?_append`, `readComponents_dotted`, `readCode_codeText`).  The
  second needs that a text goes on with nothing the scanner could take too.
* `spells_of_parse` and `parse_of_spells` put them together, and `parse_pad` is
  about the blank characters around a text.
-/

namespace JdkCatalog.BuildNumber

/-! ## The grammar -/

/-- A decimal numeral without superfluous zeros in front, for a number of 32
bits. -/
structure IsNumeral (cs : List Char) (n : UInt32) : Prop where
  ne_nil : cs ≠ []
  isDigit : ∀ c ∈ cs, c.isDigit = true
  leading : cs.head? = some '0' → cs = ['0']
  value : Nat.ofDigitChars 10 cs 0 = n.toNat

/-- The texts of components, and what they say. -/
inductive Component : List Char → UInt32 → Prop where
  | snapshot : Component "SNAPSHOT".toList snapshot
  | star : Component ['*'] snapshot
  | numeral {cs : List Char} {n : UInt32} (h : IsNumeral cs n) : Component cs n

/-- The text of a code: the code and a dash, if there is a code. -/
def codeText : Option ProductCode → List Char
  | none => []
  | some code => code.text.toList ++ ['-']

/-- A text is made of the text of a code and of texts of components with dots
between them. -/
structure Spells (cs : List Char) (code : Option ProductCode) (parts : List (List Char))
    (ns : List UInt32) : Prop where
  text_eq : cs = codeText code ++ ['.'].intercalate parts
  parts_ne_nil : parts ≠ []
  components : List.Forall₂ Component parts ns

/-! ## Numerals -/

theorem isNumeral_zero : IsNumeral ['0'] 0 where
  ne_nil := List.cons_ne_nil '0' []
  isDigit := List.forall_mem_singleton.mpr rfl
  leading := fun _ => rfl
  value := rfl

/-- A value that fits leaves no room for more than ten digits, so that looking
at their number refuses nothing that looking at the value does not. -/
theorem length_le_ten {c : Char} {cs : List Char} (hc : c.isDigit = true) (hzero : c ≠ '0')
    (hvalue : Nat.ofDigitChars 10 (c :: cs) 0 < UInt32.size) : (c :: cs).length ≤ 10 := by
  by_contra hlen
  have hpow : 10 ^ 10 ≤ 10 ^ cs.length :=
    Nat.pow_le_pow_right (by decide) (by simp only [List.length_cons] at hlen; omega)
  have hsize : UInt32.size < 10 ^ 10 := by decide
  have hle : 10 ^ cs.length ≤ _ := Text.pow_length_le_ofDigitChars hc hzero
  omega

/-- Digits that do not start with a zero are a numeral for their value, if it
fits. -/
theorem isNumeral_ofNat {c : Char} {cs : List Char} (hdigits : ∀ d ∈ c :: cs, d.isDigit = true)
    (hzero : c ≠ '0') (hvalue : Nat.ofDigitChars 10 (c :: cs) 0 < UInt32.size) :
    IsNumeral (c :: cs) (UInt32.ofNat (Nat.ofDigitChars 10 (c :: cs) 0)) where
  ne_nil := List.cons_ne_nil c cs
  isDigit := hdigits
  leading := fun h => absurd (Option.some.inj h) hzero
  value := (UInt32.toNat_ofNat_of_lt' hvalue).symm

/-! ## A component -/

theorem readComponent?_digit {c : Char} {cs : List Char} (hc : c.isDigit = true)
    (hzero : c ≠ '0') :
    readComponent? (c :: cs) =
      let digits := c :: cs.takeWhile Char.isDigit
      if Nat.ofDigitChars 10 digits 0 < UInt32.size then
        some (UInt32.ofNat (Nat.ofDigitChars 10 digits 0), cs.dropWhile Char.isDigit)
      else
        none := by
  have hsnapshot : Text.afterFront? "SNAPSHOT".toList (c :: cs) = none :=
    if_neg (by rintro rfl; exact absurd hc (by decide))
  have hstar : c ≠ '*' := by rintro rfl; exact absurd hc (by decide)
  unfold readComponent?
  rw [hsnapshot]
  dsimp only
  split
  · contradiction
  next hcs => exact absurd (List.head_eq_of_cons_eq hcs) hstar
  next hcs => exact absurd (List.head_eq_of_cons_eq hcs) hzero
  next hcs =>
    cases hcs
    by_cases hvalue : Nat.ofDigitChars 10 (c :: cs.takeWhile Char.isDigit) 0 < UInt32.size
    · have hlength := length_le_ten hc hzero hvalue
      simp only [hc, if_true, hlength, hvalue, decide_true, Bool.and_self]
    · simp only [hc, if_true, hvalue, decide_false, Bool.and_false, Bool.false_eq_true, if_false]

/-- What is a component is read to its end, if what follows it cannot be taken
for more digits of it. -/
theorem readComponent?_append {part rest : List Char} {n : UInt32} (hpart : Component part n)
    (hrest : Text.NoneAhead Char.isDigit rest) :
    readComponent? (part ++ rest) = some (n, rest) := by
  cases hpart with
  | snapshot => rfl
  | star => rfl
  | numeral h =>
    obtain ⟨c, digits, rfl⟩ := List.exists_cons_of_ne_nil h.ne_nil
    by_cases hzero : c = '0'
    · -- No more digits are looked for after a zero, and a numeral has none there.
      subst hzero
      obtain rfl : digits = [] := List.tail_eq_of_cons_eq (h.leading rfl)
      obtain rfl : 0 = n := UInt32.toNat_inj.mp h.value
      rfl
    · have hc : c.isDigit = true := h.isDigit c List.mem_cons_self
      have hdigits : ∀ d ∈ digits, d.isDigit = true := fun d hd =>
        h.isDigit d (List.mem_cons_of_mem c hd)
      have htake := Text.takeWhile_append_of_noneAhead hdigits hrest
      have hdrop := Text.dropWhile_append_of_noneAhead hdigits hrest
      rw [List.cons_append, readComponent?_digit hc hzero]
      simp only [htake, hdrop, h.value, UInt32.ofNat_toNat]
      exact if_pos n.toNat_lt

/-- What is read is a component, and nothing before or after it is lost. -/
theorem exists_component_of_readComponent? {cs rest : List Char} {n : UInt32}
    (h : readComponent? cs = some (n, rest)) : ∃ part, cs = part ++ rest ∧ Component part n := by
  unfold readComponent? at h
  split at h
  next hr =>
    rw [Text.afterFront?_eq_some_iff] at hr
    cases h
    exact ⟨_, hr, .snapshot⟩
  next =>
    split at h
    · contradiction
    · cases h
      exact ⟨_, rfl, .star⟩
    · cases h
      exact ⟨_, rfl, .numeral isNumeral_zero⟩
    next c cs _ hzero _ =>
      simp only [Option.ite_none_right_eq_some, Bool.and_eq_true, decide_eq_true_eq] at h
      obtain ⟨hc, ⟨-, hvalue⟩, heq⟩ := h
      cases heq
      refine ⟨c :: cs.takeWhile Char.isDigit, ?_, .numeral (isNumeral_ofNat ?_ hzero hvalue)⟩
      · rw [List.cons_append, List.takeWhile_append_dropWhile]
      · exact List.forall_mem_cons.mpr ⟨hc, List.all_eq_true.mp List.all_takeWhile⟩

/-! ## The components after the first -/

/-- The texts of the components that follow the first one, each after its
dot. -/
def dotted (parts : List (List Char)) : List Char :=
  parts.flatMap ('.' :: ·)

theorem intercalate_dot (part : List Char) (parts : List (List Char)) :
    ['.'].intercalate (part :: parts) = part ++ dotted parts :=
  Text.intercalate_cons ['.'] part parts

theorem noneAhead_dotted (parts : List (List Char)) :
    Text.NoneAhead Char.isDigit (dotted parts) := by
  cases parts with
  | nil => exact Text.noneAhead_nil
  | cons part parts => exact Text.noneAhead_cons.mpr rfl

theorem readComponents_nil : readComponents [] = ([], []) := by
  simp [readComponents]

theorem readComponents_dot {body rest : List Char} {n : UInt32}
    (h : readComponent? body = some (n, rest)) :
    readComponents ('.' :: body) = (n :: (readComponents rest).1, (readComponents rest).2) := by
  rw [readComponents]
  split
  next hread =>
    cases h.symm.trans hread
    rfl
  next hread => cases h.symm.trans hread

theorem readComponents_dotted {parts : List (List Char)} {ns : List UInt32}
    (h : List.Forall₂ Component parts ns) : readComponents (dotted parts) = (ns, []) := by
  induction h with
  | nil => exact readComponents_nil
  | @cons part n parts ns hpart _ ih =>
    have hfirst : readComponent? (part ++ dotted parts) = some (n, dotted parts) :=
      readComponent?_append hpart (noneAhead_dotted parts)
    calc readComponents (dotted (part :: parts))
        = (n :: (readComponents (dotted parts)).1, (readComponents (dotted parts)).2) :=
          readComponents_dot hfirst
      _ = (n :: ns, []) := by rw [ih]

theorem exists_parts_of_readComponents {cs rest : List Char} {ns : List UInt32}
    (h : readComponents cs = (ns, rest)) :
    ∃ parts, cs = dotted parts ++ rest ∧ List.Forall₂ Component parts ns := by
  fun_induction readComponents cs generalizing ns rest with
  | case1 body n after hread hlt ms left hafter ih =>
    cases h
    obtain ⟨part, rfl, hpart⟩ := exists_component_of_readComponent? hread
    obtain ⟨parts, rfl, hparts⟩ := ih hafter
    exact ⟨part :: parts, by simp [dotted], .cons hpart hparts⟩
  | case2 body hread =>
    cases h
    exact ⟨[], rfl, .nil⟩
  | case3 cs hdot =>
    cases h
    exact ⟨[], rfl, .nil⟩

/-! ## The code -/

/-- A code and its dash are taken off the front of any text. -/
theorem readCode_text (code : ProductCode) (rest : List Char) :
    readCode (code.text.toList ++ '-' :: rest) = (some code, rest) := by
  have hdash : Text.NoneAhead Char.isAlpha ('-' :: rest) := Text.noneAhead_cons.mpr rfl
  have htake := Text.takeWhile_append_of_noneAhead code.isAlpha_of_mem hdash
  have hdrop := Text.dropWhile_append_of_noneAhead code.isAlpha_of_mem hdash
  have hcode : ProductCode.ofText? code.text = some code :=
    ProductCode.ofText?_eq_some_iff.mpr rfl
  unfold readCode
  rw [htake, hdrop, String.ofList_toList, hcode]
  rfl

/-- Nothing is taken for a code where there is no dash. -/
theorem readCode_of_notMem {cs : List Char} (h : '-' ∉ cs) : readCode cs = (none, cs) := by
  unfold readCode
  split
  next hdrop =>
    have hmem : '-' ∈ cs.dropWhile Char.isAlpha := hdrop ▸ List.mem_cons_self
    exact absurd ((List.dropWhile_sublist _).subset hmem) h
  · rfl

theorem readCode_codeText {code : Option ProductCode} {rest : List Char} (h : '-' ∉ rest) :
    readCode (codeText code ++ rest) = (code, rest) := by
  cases code with
  | none => exact readCode_of_notMem h
  | some code =>
    rw [codeText, List.append_assoc]
    exact readCode_text code rest

theorem eq_codeText_append_of_readCode {cs rest : List Char} {code : Option ProductCode}
    (h : readCode cs = (code, rest)) : cs = codeText code ++ rest := by
  unfold readCode at h
  split at h
  next code' rest' hcode hdrop =>
    cases h
    have htext : code'.text.toList = cs.takeWhile Char.isAlpha := by
      rw [ProductCode.ofText?_eq_some_iff.mp hcode, String.toList_ofList]
    calc cs
        = cs.takeWhile Char.isAlpha ++ cs.dropWhile Char.isAlpha :=
          List.takeWhile_append_dropWhile.symm
      _ = codeText (some code') ++ rest := by rw [← htext, hdrop]; simp [codeText]
  · cases h
    rfl

/-! ## The whole text -/

theorem Component.notMem {part : List Char} {n : UInt32} (h : Component part n) :
    '.' ∉ part ∧ '-' ∉ part := by
  cases h with
  | snapshot => decide
  | star => decide
  | numeral h =>
    have hne {c : Char} (hc : c.isDigit = false) : c ∉ part := fun hmem =>
      Bool.false_ne_true (hc.symm.trans (h.isDigit c hmem))
    exact ⟨hne rfl, hne rfl⟩

theorem notMem_of_components {parts : List (List Char)} {ns : List UInt32}
    (h : List.Forall₂ Component parts ns) : ∀ part ∈ parts, '.' ∉ part ∧ '-' ∉ part :=
  ((List.forall₂_and_left parts ns).mp (h.imp fun _ _ hpart => ⟨hpart.notMem, hpart⟩)).1

theorem dash_notMem_intercalate {parts : List (List Char)} (h : ∀ part ∈ parts, '-' ∉ part) :
    '-' ∉ ['.'].intercalate parts := by
  cases parts with
  | nil => exact List.not_mem_nil
  | cons part parts =>
    rw [intercalate_dot, List.mem_append, dotted, List.mem_flatMap]
    rintro (hpart | ⟨next, hnext, hdash⟩)
    · exact h part List.mem_cons_self hpart
    · exact h next (List.mem_cons_of_mem part hnext) (List.mem_of_ne_of_mem (by decide) hdash)

/-- Reading a code first never takes anything that the components need. -/
theorem Spells.readCode_eq {cs : List Char} {code : Option ProductCode}
    {parts : List (List Char)} {ns : List UInt32} (h : Spells cs code parts ns) :
    readCode cs = (code, ['.'].intercalate parts) := by
  rw [h.text_eq]
  apply readCode_codeText
  exact dash_notMem_intercalate fun part hpart => (notMem_of_components h.components part hpart).2

/-- A text is a component in one way: a numeral that is read cannot say
something else. -/
theorem Component.rightUnique : Relator.RightUnique Component := by
  intro part n m hn hm
  have heq := (readComponent?_append hn Text.noneAhead_nil).symm.trans
    (readComponent?_append hm Text.noneAhead_nil)
  cases heq
  rfl

theorem Spells.splitOn_eq {cs : List Char} {code : Option ProductCode}
    {parts : List (List Char)} {ns : List UInt32} (h : Spells cs code parts ns) :
    (['.'].intercalate parts).splitOn '.' = parts :=
  List.splitOn_intercalate '.' (fun part hpart => (notMem_of_components h.components part hpart).1)
    h.parts_ne_nil

theorem Spells.unique {cs : List Char} {code code' : Option ProductCode}
    {parts parts' : List (List Char)} {ns ns' : List UInt32} (h : Spells cs code parts ns)
    (h' : Spells cs code' parts' ns') : code = code' ∧ parts = parts' ∧ ns = ns' := by
  obtain ⟨hcode, hjoined⟩ := Prod.mk.inj (h.readCode_eq.symm.trans h'.readCode_eq)
  have hparts : parts = parts' := by rw [← h.splitOn_eq, hjoined, h'.splitOn_eq]
  subst hparts
  exact ⟨hcode, rfl, Component.rightUnique.forall₂ h.components h'.components⟩

/-- What is read is spelled. -/
theorem spells_of_parse {s : String} {b : BuildNumber} (h : parse s = .ok b) :
    ∃ parts, Spells (Text.trim s.toList) b.productCode parts b.components := by
  unfold parse at h
  dsimp only at h
  rcases hcode : readCode (Text.trim s.toList) with ⟨code, body⟩
  rw [hcode] at h
  dsimp only at h
  split at h
  · contradiction
  next n rest hfirst =>
    rcases hothers : readComponents rest with ⟨ns, left⟩
    rw [hothers] at h
    dsimp only at h
    split at h
    next hleft =>
      cases h
      obtain rfl : left = [] := List.isEmpty_iff.mp hleft
      obtain ⟨part, rfl, hpart⟩ := exists_component_of_readComponent? hfirst
      obtain ⟨parts, rfl, hparts⟩ := exists_parts_of_readComponents hothers
      refine ⟨part :: parts, ?_, List.cons_ne_nil part parts, .cons hpart hparts⟩
      rw [eq_codeText_append_of_readCode hcode, intercalate_dot, List.append_nil]
    next => contradiction

/-- What is spelled is read, the scanners going forward only. -/
theorem parse_of_spells {s : String} {b : BuildNumber} {parts : List (List Char)}
    (h : Spells (Text.trim s.toList) b.productCode parts b.components) : parse s = .ok b := by
  obtain ⟨code, components, hne⟩ := b
  have hcode := h.readCode_eq
  cases h.components with
  | nil => exact absurd rfl hne
  | @cons part n parts ns hpart hparts =>
    have hfirst := readComponent?_append hpart (noneAhead_dotted parts)
    rw [intercalate_dot] at hcode
    unfold parse
    simp only [hcode, hfirst, readComponents_dotted hparts]
    rfl

example : (parse " SNAPSHOT-203.SNAPSHOT\n").toOption.map (·.components) =
    some [203, snapshot] := by
  decide +kernel

/-- Of blank characters around a text only the report of an error knows. -/
theorem parse_pad {before s after : String}
    (hbefore : ∀ c ∈ before.toList, Text.isBlank c = true)
    (hafter : ∀ c ∈ after.toList, Text.isBlank c = true) :
    parse (before ++ s ++ after) =
      (parse s).mapError fun e => { e with input := before ++ s ++ after } := by
  have htrim : Text.trim (before ++ s ++ after).toList = Text.trim s.toList := by
    rw [String.toList_append, String.toList_append]
    exact Text.trim_pad hbefore hafter
  unfold parse
  rw [htrim]
  dsimp only
  split
  · rfl
  · split <;> rfl

/-- Build numbers are read exactly where the trimmed text is spelled, and what
is read is what it spells; it spells one thing only, and blank characters
around it make no difference. -/
theorem parse_iff_spells (s : String) :
    Text.Trimmed s.toList (Text.trim s.toList) ∧
    ((∃ b, parse s = .ok b) ↔ ∃ code parts ns, Spells (Text.trim s.toList) code parts ns) ∧
    (∀ b, parse s = .ok b ↔
      ∃ parts, Spells (Text.trim s.toList) b.productCode parts b.components) ∧
    (∀ code code' parts parts' ns ns', Spells (Text.trim s.toList) code parts ns →
      Spells (Text.trim s.toList) code' parts' ns' → code = code' ∧ parts = parts' ∧ ns = ns') ∧
    ∀ before after : String, (∀ c ∈ before.toList, Text.isBlank c = true) →
      (∀ c ∈ after.toList, Text.isBlank c = true) →
      parse (before ++ s ++ after) =
        (parse s).mapError fun e => { e with input := before ++ s ++ after } := by
  refine ⟨Text.trimmed_trim s.toList, ⟨?accepted, ?spelled⟩, fun b => ⟨spells_of_parse, ?read⟩,
    fun _ _ _ _ _ _ => Spells.unique, fun _ _ => parse_pad⟩
  case accepted =>
    rintro ⟨b, h⟩
    obtain ⟨parts, hspells⟩ := spells_of_parse h
    exact ⟨b.productCode, parts, b.components, hspells⟩
  case spelled =>
    rintro ⟨code, parts, ns, h⟩
    have hne : ns ≠ [] := by
      rintro rfl
      exact h.parts_ne_nil (List.forall₂_nil_right_iff.mp h.components)
    exact ⟨⟨code, ns, hne⟩, parse_of_spells h⟩
  case read =>
    rintro ⟨parts, h⟩
    exact parse_of_spells h

end JdkCatalog.BuildNumber
