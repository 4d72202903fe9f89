import JdkCatalog.Proofs.BuildNumber.Order
import JdkCatalog.Proofs.BuildNumber.RoundTrip
import JdkCatalog.Proofs.Version.Number

/-!
# Numerals and wildcards

A component that is not fixed yet is written as a word or as a star, and is
kept as the largest number of 32 bits, which comes after every other one.  A
numeral can stand for that number as well, and then it is no longer told apart
from a wildcard.  This module says that it is the only one.

* `IsNumeral.eq_snapshot_iff` finds the one numeral that stands for the number
  of the wildcards.  `mem_largestNumeral_iff` and `componentText_eq_iff` carry
  this to a list of components and to their texts.
* `precedesIn_append_left_iff` takes the shared start off two lists, so that
  the component at which a wildcard is put decides.
* `ToldApart` says what it means that a text of numerals is not taken for one
  with wildcards.  `exists_parts_toldApart_iff` says that it holds if and only if
  the largest numeral is not in the text, which is then what goes wrong with it.
-/

namespace JdkCatalog.BuildNumber

/-- The texts of a component that is not fixed yet. -/
def wildcards : List (List Char) :=
  ["SNAPSHOT".toList, ['*']]

/-- The numeral for the largest number of 32 bits. -/
def largestNumeral : List Char :=
  "4294967295".toList

/-! ## Numerals -/

theorem Component.isNumeral {part : List Char} {n : UInt32} (h : Component part n)
    (hpart : part ∉ wildcards) : IsNumeral part n := by
  cases h with
  | snapshot => simp [wildcards] at hpart
  | star => simp [wildcards] at hpart
  | numeral h => exact h

theorem component_of_mem_wildcards {part : List Char} (hpart : part ∈ wildcards) :
    Component part snapshot := by
  simp only [wildcards, List.mem_cons, List.not_mem_nil, or_false] at hpart
  rcases hpart with rfl | rfl
  · exact .snapshot
  · exact .star

theorem IsNumeral.isStripped {cs : List Char} {n : UInt32} (h : IsNumeral cs n) :
    Version.IsStripped cs :=
  ⟨h.ne_nil, h.isDigit, h.leading⟩

/-- A number has one numeral. -/
theorem IsNumeral.unique {cs ds : List Char} {n : UInt32} (hcs : IsNumeral cs n)
    (hds : IsNumeral ds n) : cs = ds := by
  apply hcs.isStripped.eq_of_value_eq hds.isStripped
  show Nat.ofDigitChars 10 cs 0 = Nat.ofDigitChars 10 ds 0
  rw [hcs.value, hds.value]

theorem isNumeral_largestNumeral : IsNumeral largestNumeral snapshot :=
  isNumeral_repr snapshot

/-- The numbers of wildcards and of numerals meet in one numeral. -/
theorem IsNumeral.eq_snapshot_iff {part : List Char} {n : UInt32} (h : IsNumeral part n) :
    n = snapshot ↔ part = largestNumeral := by
  constructor
  · rintro rfl
    exact h.unique isNumeral_largestNumeral
  · rintro rfl
    exact Component.rightUnique (.numeral h) (.numeral isNumeral_largestNumeral)

/-- A numeral is written back as it was, unless it is the largest one, in whose
place the word for a wildcard is written. -/
theorem IsNumeral.componentText_eq_iff {part : List Char} {n : UInt32} (h : IsNumeral part n) :
    (componentText n).toList = part ↔ part ≠ largestNumeral := by
  unfold componentText
  by_cases hn : n = snapshot
  · have hpart : part = largestNumeral := h.eq_snapshot_iff.mp hn
    rw [if_pos hn, hpart]
    decide
  · have hpart : part ≠ largestNumeral := fun heq => hn (h.eq_snapshot_iff.mpr heq)
    rw [if_neg hn]
    exact iff_of_true ((isNumeral_repr n).unique h) hpart

/-! ## All components -/

theorem forall₂_isNumeral {parts : List (List Char)} {ns : List UInt32}
    (h : List.Forall₂ Component parts ns) (hparts : ∀ part ∈ parts, part ∉ wildcards) :
    List.Forall₂ IsNumeral parts ns := by
  induction h with
  | nil => exact .nil
  | cons hpart _ ih =>
    obtain ⟨hfirst, hothers⟩ := List.forall_mem_cons.mp hparts
    exact .cons (hpart.isNumeral hfirst) (ih hothers)

theorem mem_largestNumeral_iff {parts : List (List Char)} {ns : List UInt32}
    (h : List.Forall₂ IsNumeral parts ns) : largestNumeral ∈ parts ↔ snapshot ∈ ns := by
  induction h with
  | nil => simp
  | cons hpart _ ih =>
    rw [List.mem_cons, List.mem_cons, ih, eq_comm, ← hpart.eq_snapshot_iff, eq_comm]

/-- Numerals are written back as they were if and only if the largest one is not
among them. -/
theorem map_componentText_eq_iff {parts : List (List Char)} {ns : List UInt32}
    (h : List.Forall₂ IsNumeral parts ns) :
    ns.map (fun n => (componentText n).toList) = parts ↔ largestNumeral ∉ parts := by
  induction h with
  | nil => simp
  | cons hpart _ ih =>
    rw [List.map_cons, List.cons.injEq, hpart.componentText_eq_iff, ih, List.mem_cons, not_or,
      ne_comm]

theorem isSnapshot_iff {b : BuildNumber} : b.isSnapshot = true ↔ snapshot ∈ b.components := by
  unfold isSnapshot
  exact List.contains_iff_mem

/-! ## A wildcard in the place of a component -/

theorem precedesIn_append_left_iff (shared : List UInt32) {ns ms : List UInt32} :
    PrecedesIn (shared ++ ns) (shared ++ ms) ↔ PrecedesIn ns ms := by
  induction shared with
  | nil => rfl
  | cons n shared ih =>
    rw [List.cons_append, List.cons_append, precedesIn_cons_cons, ih]
    simp

theorem lt_snapshot_iff {n : UInt32} : n < snapshot ↔ n ≠ snapshot := by
  have hlt := n.toNat_lt
  have hsnapshot : snapshot.toNat = 4294967295 := rfl
  rw [UInt32.lt_iff_toNat_lt, ne_eq, ← UInt32.toNat_inj, hsnapshot]
  omega

/-- With a wildcard in the place of a component, and any components after it, a
build number precedes the new one unless that component is the number of the
wildcards; then the components that follow decide. -/
theorem precedesIn_wildcard_iff {ns ms : List UInt32} {k : Nat} (hk : k < ns.length) :
    PrecedesIn ns (ns.take k ++ snapshot :: ms) ↔
      ns[k] ≠ snapshot ∨ ns[k] = snapshot ∧ PrecedesIn (ns.drop (k + 1)) ms := by
  have hsplit : ns = ns.take k ++ ns[k] :: ns.drop (k + 1) := by simp
  calc PrecedesIn ns (ns.take k ++ snapshot :: ms)
      ↔ PrecedesIn (ns.take k ++ ns[k] :: ns.drop (k + 1)) (ns.take k ++ snapshot :: ms) := by
        rw [← hsplit]
    _ ↔ PrecedesIn (ns[k] :: ns.drop (k + 1)) (snapshot :: ms) := precedesIn_append_left_iff _
    _ ↔ _ := by rw [precedesIn_cons_cons, lt_snapshot_iff]

/-- A text with a wildcard in the place of a component is read as a later build
number, whatever the code of the text is and whatever components come after the
wildcard. -/
def PrecedesWildcardAt (b : BuildNumber) (parts : List (List Char)) (k : Nat) : Prop :=
  ∀ code, ∀ wildcard ∈ wildcards, ∀ others ns, List.Forall₂ Component others ns → ∀ s : String,
    Text.trim s.toList = codeText code ++ ['.'].intercalate (parts.take k ++ wildcard :: others) →
      ∃ b', parse s = .ok b' ∧ compare b b' = .lt

/-- A text with a wildcard in the place of a component is read, and it shares
the components before the wildcard. -/
theorem exists_parse_of_wildcard {parts others : List (List Char)} {wildcard : List Char}
    {ns ms : List UInt32} {code : Option ProductCode} {s : String} (k : Nat)
    (hparts : List.Forall₂ Component parts ns) (hwildcard : wildcard ∈ wildcards)
    (hothers : List.Forall₂ Component others ms)
    (htext : Text.trim s.toList =
      codeText code ++ ['.'].intercalate (parts.take k ++ wildcard :: others)) :
    ∃ b, parse s = .ok b ∧ b.components = ns.take k ++ snapshot :: ms := by
  have hcomponents : List.Forall₂ Component (parts.take k ++ wildcard :: others)
      (ns.take k ++ snapshot :: ms) :=
    List.rel_append (List.forall₂_take k hparts)
      (.cons (component_of_mem_wildcards hwildcard) hothers)
  refine ⟨⟨code, ns.take k ++ snapshot :: ms, by simp⟩, ?_, rfl⟩
  exact parse_of_spells ⟨htext, by simp, hcomponents⟩

theorem precedesWildcardAt_iff {b : BuildNumber} {parts : List (List Char)} {k : Nat}
    (hparts : List.Forall₂ Component parts b.components) (hk : k < b.components.length) :
    b.PrecedesWildcardAt parts k ↔ b.components[k] ≠ snapshot := by
  constructor
  · intro h hsnapshot
    -- With nothing after the star there is nothing that could still make a difference.
    let cs := ['.'].intercalate (parts.take k ++ [['*']])
    have hspells : Spells cs none (parts.take k ++ [['*']]) (b.components.take k ++ [snapshot]) :=
      ⟨rfl, by simp, List.rel_append (List.forall₂_take k hparts) (.cons .star .nil)⟩
    have htrim : Text.trim (String.ofList cs).toList = codeText none ++ cs := by
      rw [String.toList_ofList, hspells.trim_eq]
      rfl
    have hstar : ['*'] ∈ wildcards := by simp [wildcards]
    obtain ⟨b', hparse, hlt⟩ := h none ['*'] hstar [] [] .nil (String.ofList cs) htrim
    obtain ⟨b'', hparse', hcomponents⟩ := exists_parse_of_wildcard k hparts hstar .nil htrim
    obtain rfl : b' = b'' := Except.ok.inj (hparse.symm.trans hparse')
    rw [compare_eq_lt_iff, Precedes, hcomponents, precedesIn_wildcard_iff hk] at hlt
    rcases hlt with hne | ⟨-, hrest⟩
    · exact hne hsnapshot
    · exact not_precedesIn_nil _ hrest
  · intro hne code wildcard hwildcard others ns hothers s htext
    obtain ⟨b', hparse, hcomponents⟩ := exists_parse_of_wildcard k hparts hwildcard hothers htext
    refine ⟨b', hparse, ?_⟩
    rw [compare_eq_lt_iff, Precedes, hcomponents, precedesIn_wildcard_iff hk]
    exact .inl hne

/-! ## Numerals are told apart from wildcards -/

/-- The text of a build number is the one that it was read from if and only if
each part of it is. -/
theorem toList_text_eq_iff {cs : List Char} {b : BuildNumber} {parts : List (List Char)}
    (h : Spells cs b.productCode parts b.components) :
    b.text.toList = cs ↔ b.writtenParts = parts := by
  constructor
  · rintro rfl
    exact (b.spells_text.unique h).2.1
  · intro hparts
    rw [b.toList_text, hparts, ← h.text_eq]

/-- A text whose components are these numerals is not taken for one with
wildcards. -/
structure ToldApart (s : String) (b : BuildNumber) (parts : List (List Char)) : Prop where
  /-- No component counts as not fixed yet. -/
  isSnapshot : b.isSnapshot = false
  /-- Every component is written as the numeral that it was, -/
  writtenParts : b.writtenParts = parts
  /-- and so is the text. -/
  text : b.text.toList = Text.trim s.toList
  /-- A wildcard in the place of any component makes a later build number. -/
  precedes : ∀ k < parts.length, b.PrecedesWildcardAt parts k

/-- A text that is read consists of components.  If all of them are numerals, it
is told apart from texts with wildcards exactly where the largest numeral is not
among them.  The same holds of each of its components: the largest numeral, and
no other one, makes the build number count as not fixed, is written in another
way, and does not come before a wildcard. -/
theorem exists_parts_toldApart_iff {s : String} {b : BuildNumber} (hparse : parse s = .ok b) :
    ∃ parts, Spells (Text.trim s.toList) b.productCode parts b.components ∧
      ((∀ part ∈ parts, part ∉ wildcards) →
        (ToldApart s b parts ↔ largestNumeral ∉ parts) ∧
        (b.isSnapshot = true ↔ largestNumeral ∈ parts) ∧
        (b.text.toList = Text.trim s.toList ↔ largestNumeral ∉ parts) ∧
        List.Forall₂ (fun part n => (componentText n).toList = part ↔ part ≠ largestNumeral)
          parts b.components ∧
        ∀ k (hk : k < parts.length),
          b.PrecedesWildcardAt parts k ↔ parts[k] ≠ largestNumeral) := by
  obtain ⟨parts, hspells⟩ := spells_of_parse hparse
  refine ⟨parts, hspells, fun hparts => ?_⟩
  have hnumerals := forall₂_isNumeral hspells.components hparts
  have hsnapshot : b.isSnapshot = true ↔ largestNumeral ∈ parts := by
    rw [isSnapshot_iff, mem_largestNumeral_iff hnumerals]
  have hwritten : b.writtenParts = parts ↔ largestNumeral ∉ parts :=
    map_componentText_eq_iff hnumerals
  have htext : b.text.toList = Text.trim s.toList ↔ largestNumeral ∉ parts :=
    (toList_text_eq_iff hspells).trans hwritten
  have hprecedes : ∀ k (hk : k < parts.length),
      b.PrecedesWildcardAt parts k ↔ parts[k] ≠ largestNumeral := by
    intro k hk
    have hk' : k < b.components.length := hnumerals.length_eq ▸ hk
    have hnumeral : IsNumeral parts[k] b.components[k] := hnumerals.get hk hk'
    rw [precedesWildcardAt_iff hspells.components hk', ne_eq, ne_eq, hnumeral.eq_snapshot_iff]
  refine ⟨⟨fun h => hwritten.mp h.writtenParts, fun hlargest => ?_⟩, hsnapshot, htext,
    hnumerals.imp fun _ _ h => h.componentText_eq_iff, hprecedes⟩
  exact {
    isSnapshot := by rw [← Bool.not_eq_true, hsnapshot]; exact hlargest
    writtenParts := hwritten.mpr hlargest
    text := htext.mpr hlargest
    precedes := fun k hk => (hprecedes k hk).mpr fun heq => hlargest (heq ▸ List.getElem_mem hk) }

/-- The number just below that of the wildcards is told apart from it. -/
theorem toldApart_largest_but_one :
    let b : BuildNumber := ⟨ProductCode.ofText? "IU", [203, 4294967294], by decide⟩
    let parts := ["203".toList, "4294967294".toList]
    parse "IU-203.4294967294" = .ok b ∧
      Spells (Text.trim "IU-203.4294967294".toList) b.productCode parts b.components ∧
      (∀ part ∈ parts, part ∉ wildcards) ∧ ToldApart "IU-203.4294967294" b parts := by
  intro b parts
  have hspells : Spells (Text.trim "IU-203.4294967294".toList) b.productCode parts b.components := {
    text_eq := by decide +kernel
    parts_ne_nil := by decide
    components := .cons (.numeral (isNumeral_repr 203))
      (.cons (.numeral (isNumeral_repr 4294967294)) .nil) }
  have hparse : parse "IU-203.4294967294" = .ok b := parse_of_spells hspells
  have hnumerals : ∀ part ∈ parts, part ∉ wildcards := by decide
  obtain ⟨parts', hspells', htold⟩ := exists_parts_toldApart_iff hparse
  obtain rfl : parts' = parts := (hspells'.unique hspells).2.1
  exact ⟨hparse, hspells, hnumerals, (htold hnumerals).1.mpr (by decide)⟩

/-- The largest numeral is taken for a wildcard: it counts as not fixed, is
written as the word, and does not come before the word. -/
theorem not_toldApart_largestNumeral :
    ∃ b : BuildNumber, parse "4294967295" = .ok b ∧
      Spells (Text.trim "4294967295".toList) b.productCode [largestNumeral] b.components ∧
      (∀ part ∈ [largestNumeral], part ∉ wildcards) ∧
      b.isSnapshot = true ∧ b.text = "SNAPSHOT" ∧
      (∃ b', parse "SNAPSHOT" = .ok b' ∧ compare b b' = .eq) ∧
      ¬ ToldApart "4294967295" b [largestNumeral] := by
  let b : BuildNumber := ⟨none, [snapshot], by decide⟩
  have hspells : Spells (Text.trim "4294967295".toList) b.productCode [largestNumeral]
      b.components :=
    ⟨by decide, by decide, .cons (.numeral isNumeral_largestNumeral) .nil⟩
  have hword : Spells (Text.trim "SNAPSHOT".toList) b.productCode ["SNAPSHOT".toList]
      b.components :=
    ⟨by decide, by decide, .cons .snapshot .nil⟩
  have hsnapshot : b.isSnapshot = true := by decide
  refine ⟨b, parse_of_spells hspells, hspells, by decide, hsnapshot, by decide,
    ⟨b, parse_of_spells hword, by decide⟩, fun htold => ?_⟩
  exact Bool.false_ne_true (htold.isSnapshot.symm.trans hsnapshot)

end JdkCatalog.BuildNumber
