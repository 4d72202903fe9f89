import JdkCatalog.BuildNumber.Json
import JdkCatalog.Proofs.BuildNumber.Grammar
import JdkCatalog.Proofs.Json.Text
import JdkCatalog.Proofs.Version.Number

/-!
# Build numbers are written and read back

The text of a build number is of the grammar that build numbers are read by,
and it has no blank characters around it.  So it reads back, and it is what
every spelling of the build number is brought to.

* `component_componentText` says of one component that its text is a component
  for it.  The one that is not fixed yet is written as a word, although it may
  have been read from a star or from a numeral.
* `spells_text` and `trim_text` say of the whole text what the grammar needs,
  and `parse_text` that it reads back.
* `ofJsonText_stringText` reads a string in JSON for what the string is, so
  that build numbers in JSON read back because their texts do.
-/

namespace JdkCatalog.BuildNumber

/-! ## Components -/

/-- The digits of a number of 32 bits are a numeral for it. -/
theorem isNumeral_repr (n : UInt32) : IsNumeral n.toNat.repr.toList n := by
  have hstripped := Version.isStripped_toDigits n.toNat
  rw [Nat.toList_repr]
  exact {
    ne_nil := hstripped.ne_nil
    isDigit := hstripped.isDigit
    leading := hstripped.leading
    value := Nat.ofDigitChars_ten_toDigits }

theorem component_componentText (n : UInt32) : Component (componentText n).toList n := by
  unfold componentText
  split
  next h =>
    subst h
    exact .snapshot
  next => exact .numeral (isNumeral_repr n)

/-! ## The whole text -/

/-- The texts of the components. -/
def writtenParts (b : BuildNumber) : List (List Char) :=
  b.components.map fun n => (componentText n).toList

theorem toList_text (b : BuildNumber) :
    b.text.toList = codeText b.productCode ++ ['.'].intercalate b.writtenParts := by
  have hcode : ((b.productCode.map (·.text ++ "-")).getD "").toList = codeText b.productCode := by
    cases b.productCode with
    | none => rfl
    | some code => simp [codeText]
  rw [text, String.toList_append, hcode, String.toList_intercalate, List.map_map]
  rfl

theorem spells_text (b : BuildNumber) :
    Spells b.text.toList b.productCode b.writtenParts b.components where
  text_eq := b.toList_text
  parts_ne_nil := by
    rw [writtenParts, ne_eq, List.map_eq_nil_iff]
    exact b.components_ne_nil
  components := by
    rw [writtenParts, List.forall₂_map_left_iff]
    exact List.forall₂_same.mpr fun n _ => component_componentText n

theorem Component.isVisible {part : List Char} {n : UInt32} (h : Component part n) :
    ∀ c ∈ part, Text.IsVisible c := by
  cases h with
  | snapshot =>
    have halpha : ∀ c ∈ "SNAPSHOT".toList, c.isAlpha = true := List.all_eq_true.mp (by decide)
    exact fun c hc => Text.isVisible_of_isAlpha (halpha c hc)
  | star => exact List.forall_mem_singleton.mpr ⟨by decide, by decide⟩
  | numeral h => exact fun c hc => Text.isVisible_of_isDigit (h.isDigit c hc)

theorem isVisible_of_mem_codeText {code : Option ProductCode} :
    ∀ c ∈ codeText code, Text.IsVisible c := by
  cases code with
  | none => exact fun c hc => absurd hc List.not_mem_nil
  | some code =>
    refine List.forall_mem_append.mpr
      ⟨fun c hc => ?_, List.forall_mem_singleton.mpr ⟨by decide, by decide⟩⟩
    exact Text.isVisible_of_isAlpha (code.isAlpha_of_mem c hc)

/-- What holds of the dot and of all characters of several texts holds of all
characters of the texts with dots between them. -/
theorem forall_mem_intercalate_dot {p : Char → Prop} (hdot : p '.') {parts : List (List Char)}
    (hparts : ∀ part ∈ parts, ∀ c ∈ part, p c) : ∀ c ∈ ['.'].intercalate parts, p c := by
  cases parts with
  | nil => exact fun c hc => absurd hc List.not_mem_nil
  | cons part parts =>
    obtain ⟨hfirst, hothers⟩ := List.forall_mem_cons.mp hparts
    rw [intercalate_dot]
    refine List.forall_mem_append.mpr ⟨hfirst, fun c hc => ?_⟩
    obtain ⟨next, hnext, hmem⟩ := List.mem_flatMap.mp hc
    rcases List.mem_cons.mp hmem with rfl | hmem
    · exact hdot
    · exact hothers next hnext c hmem

/-- All characters of what spells a build number are visible. -/
theorem Spells.isVisible {cs : List Char} {code : Option ProductCode}
    {parts : List (List Char)} {ns : List UInt32} (h : Spells cs code parts ns) :
    ∀ c ∈ cs, Text.IsVisible c := by
  have hparts : ∀ part ∈ parts, ∀ c ∈ part, Text.IsVisible c :=
    ((List.forall₂_and_left parts ns).mp
      (h.components.imp fun _ _ hpart => ⟨hpart.isVisible, hpart⟩)).1
  rw [h.text_eq]
  have hdot : Text.IsVisible '.' := ⟨by decide, by decide⟩
  exact List.forall_mem_append.mpr
    ⟨isVisible_of_mem_codeText, forall_mem_intercalate_dot hdot hparts⟩

theorem Spells.trim_eq {cs : List Char} {code : Option ProductCode}
    {parts : List (List Char)} {ns : List UInt32} (h : Spells cs code parts ns) :
    Text.trim cs = cs :=
  Text.trim_eq_self fun c hc => (h.isVisible c hc).isBlank_eq_false

/-- The characters that build numbers are written with. -/
def isWritten (c : Char) : Bool :=
  c.isAlphanum || c == '-' || c == '.'

theorem isWritten_of_mem_componentText {n : UInt32} :
    ∀ c ∈ (componentText n).toList, isWritten c = true := by
  have hsnapshot : ∀ c ∈ "SNAPSHOT".toList, c.isAlphanum = true :=
    List.all_eq_true.mp (by decide)
  intro c hc
  have halphanum : c.isAlphanum = true := by
    unfold componentText at hc
    split at hc
    · exact hsnapshot c hc
    · rw [Nat.toList_repr] at hc
      have hdigit := Nat.isDigit_of_mem_toDigits (by decide) (by decide) hc
      rw [Char.isAlphanum, hdigit, Bool.or_true]
  rw [isWritten, halphanum]
  rfl

theorem isWritten_of_mem_text (b : BuildNumber) : ∀ c ∈ b.text.toList, isWritten c = true := by
  rw [toList_text, List.forall_mem_append]
  constructor
  · cases b.productCode with
    | none => exact List.forall_mem_nil _
    | some code =>
      refine List.forall_mem_append.mpr ⟨fun c hc => ?_, List.forall_mem_singleton.mpr rfl⟩
      rw [isWritten, Char.isAlphanum, code.isAlpha_of_mem c hc]
      rfl
  · have hdot : isWritten '.' = true := rfl
    refine forall_mem_intercalate_dot hdot fun part hpart => ?_
    obtain ⟨n, -, rfl⟩ := List.mem_map.mp hpart
    exact isWritten_of_mem_componentText

/-! ## Reading back -/

/-- The text of a build number reads back as it is. -/
theorem parse_text (b : BuildNumber) : parse b.text = .ok b := by
  have hspells := b.spells_text
  rw [← hspells.trim_eq] at hspells
  exact parse_of_spells hspells

theorem toList_text_ne_nil (b : BuildNumber) : b.text.toList ≠ [] := by
  intro h
  have hparse := b.parse_text
  rw [String.toList_eq_nil_iff.mp h] at hparse
  cases hparse

/-- A string in JSON is read as the build number that the string is. -/
theorem ofJsonText_stringText (s : String) :
    ofJsonText (Text.utf8 (Json.stringText s)) =
      (parse s).mapError fun _ => .otherValue := by
  have hstart : Json.skipBlank (Text.utf8 (Json.stringText s)) =
      0x22 :: (Text.utf8 (Json.stringText s)).tail := by
    rw [Json.utf8_stringText]
    rfl
  have hread := Json.readString_stringText s []
  rw [List.append_nil] at hread
  unfold ofJsonText
  simp only [hstart, hread]
  cases parse s <;> rfl

theorem ofJsonText_jsonText (b : BuildNumber) : ofJsonText (Text.utf8 b.jsonText) = .ok b := by
  rw [jsonText, ofJsonText_stringText, parse_text]
  rfl

/-- Build numbers with the same text are the same. -/
theorem text_inj {a b : BuildNumber} : a.text = b.text ↔ a = b := by
  constructor
  · intro h
    have hparse : parse b.text = .ok a := h ▸ a.parse_text
    rw [parse_text] at hparse
    cases hparse
    rfl
  · rintro rfl
    rfl

/-- The text that every spelling of a build number is brought to. -/
def normalize (s : String) : Except Malformed String :=
  (parse s).map text

theorem normalize_eq_of_parse {s : String} {b : BuildNumber} (h : parse s = .ok b) :
    normalize s = .ok b.text := by
  rw [normalize, h]
  rfl

theorem normalize_bind_normalize (s : String) : normalize s >>= normalize = normalize s := by
  cases hparse : parse s with
  | error e =>
    rw [normalize, hparse]
    rfl
  | ok b =>
    simp only [normalize_eq_of_parse hparse, bind, Except.bind]
    exact normalize_eq_of_parse b.parse_text

example : (normalize " IU-0.*.4294967295").toOption = some "IU-0.SNAPSHOT.SNAPSHOT" := by
  decide +kernel

/-- Every build number is what its text and its JSON text are read as, with its
code and its components as they are; those without a code are made of any
components.  The text tells build numbers apart, reading a text, writing the
build number and reading that changes nothing, and a text that has been
normalized stays as it is. -/
theorem text_roundTrip :
    (∀ b : BuildNumber, parse b.text = .ok b ∧ ofJsonText (Text.utf8 b.jsonText) = .ok b) ∧
    (∀ n ns, ∃ b, ofComponents (n :: ns) = .ok b ∧ b.productCode = none ∧
      b.components = n :: ns) ∧
    (∀ a b : BuildNumber,
      a.text = b.text ↔ a.productCode = b.productCode ∧ a.components = b.components) ∧
    (∀ s, ofJsonText (Text.utf8 (Json.stringText s)) = (parse s).mapError fun _ => .otherValue) ∧
    (∀ s, (do parse (← parse s).text) = parse s) ∧
    ∀ s, normalize s >>= normalize = normalize s := by
  refine ⟨fun b => ⟨b.parse_text, b.ofJsonText_jsonText⟩, fun n ns => ⟨_, rfl, rfl, rfl⟩,
    fun a b => ?distinct, ofJsonText_stringText, fun s => ?reread, normalize_bind_normalize⟩
  case distinct =>
    rw [text_inj]
    cases a
    cases b
    exact BuildNumber.mk.injEq _ _ _ _ _ _ ▸ Iff.rfl
  case reread =>
    cases parse s with
    | error e => rfl
    | ok b =>
      simp only [bind, Except.bind]
      exact b.parse_text

end JdkCatalog.BuildNumber
