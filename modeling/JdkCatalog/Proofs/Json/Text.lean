import JdkCatalog.Json.Reader

/-!
# Strings in JSON read back

The compact text of a string escapes some of its characters, and the reader
undoes that.  This module says that it undoes it for every string, whatever
characters are in it.

* `readString_append_plain`, `readString_escape` and `readString_unit` are the
  steps of the reader: bytes that stand for themselves, an escape of one
  letter, and an escape of four digits.
* `readString_charText` is the step for one character as it is written, and
  `readString_stringText` carries it through a string.  `read_stringText` is about
  a text that is a string and nothing else.
-/

namespace JdkCatalog

namespace Text

/-- The bytes of characters, one character after the other. -/
def bytesOf (cs : List Char) : List UInt8 :=
  cs.flatMap String.utf8EncodeChar

@[simp] theorem bytesOf_nil : bytesOf [] = [] := rfl

@[simp] theorem bytesOf_cons (c : Char) (cs : List Char) :
    bytesOf (c :: cs) = String.utf8EncodeChar c ++ bytesOf cs := rfl

@[simp] theorem bytesOf_append (cs ds : List Char) :
    bytesOf (cs ++ ds) = bytesOf cs ++ bytesOf ds :=
  List.flatMap_append

theorem utf8EncodeChar_of_ascii {c : Char} (hc : c.toNat < 0x80) :
    String.utf8EncodeChar c = [UInt8.ofNat c.toNat] :=
  if_pos (Nat.le_of_lt_succ hc)

/-- An ASCII character is its one byte, and all bytes of another character are outside
ASCII. -/
theorem byte_cases {c : Char} {b : UInt8} (hb : b ∈ String.utf8EncodeChar c) :
    (c.toNat < 0x80 ∧ b = UInt8.ofNat c.toNat) ∨
      ∃ n, 0x80 ≤ n ∧ n < 0x100 ∧ b = UInt8.ofNat n := by
  unfold String.utf8EncodeChar at hb
  dsimp only at hb
  split at hb
  next hascii => exact .inl ⟨Nat.lt_succ_of_le hascii, List.mem_singleton.mp hb⟩
  next =>
    split at hb
    next =>
      simp only [List.mem_cons, List.not_mem_nil, or_false] at hb
      rcases hb with rfl | rfl <;> exact .inr ⟨_, by omega, by omega, rfl⟩
    next =>
      split at hb
      next =>
        simp only [List.mem_cons, List.not_mem_nil, or_false] at hb
        rcases hb with rfl | rfl | rfl <;> exact .inr ⟨_, by omega, by omega, rfl⟩
      next =>
        simp only [List.mem_cons, List.not_mem_nil, or_false] at hb
        rcases hb with rfl | rfl | rfl | rfl <;> exact .inr ⟨_, by omega, by omega, rfl⟩

/-- ASCII characters are one byte each. -/
theorem length_bytesOf_of_ascii {cs : List Char} (hcs : ∀ c ∈ cs, c.toNat < 0x80) :
    (bytesOf cs).length = cs.length := by
  induction cs with
  | nil => rfl
  | cons c cs ih =>
    obtain ⟨hc, hcs⟩ := List.forall_mem_cons.mp hcs
    rw [bytesOf_cons, utf8EncodeChar_of_ascii hc, List.singleton_append, List.length_cons,
      List.length_cons, ih hcs]

theorem compare_ofNat_toNat {c d : Char} (hc : c.toNat < 0x80) (hd : d.toNat < 0x80) :
    compare (UInt8.ofNat c.toNat) (UInt8.ofNat d.toNat) = compare c d := by
  have htoNat {e : Char} (he : e.toNat < 0x80) : (UInt8.ofNat e.toNat).toNat = e.toNat :=
    UInt8.toNat_ofNat_of_lt' (Nat.lt_trans he (by decide))
  have hlt : UInt8.ofNat c.toNat < UInt8.ofNat d.toNat ↔ c < d := by
    rw [UInt8.lt_iff_toNat_lt, htoNat hc, htoNat hd]
    rfl
  have heq : UInt8.ofNat c.toNat = UInt8.ofNat d.toNat ↔ c = d := by
    rw [← UInt8.toNat_inj, htoNat hc, htoNat hd, Char.toNat_inj]
  change compareOfLessAndEq _ _ = compareOfLessAndEq _ _
  simp only [compareOfLessAndEq, hlt, heq]

/-- ASCII texts are in the order of their bytes. -/
theorem compare_bytesOf_of_ascii {cs ds : List Char} (hcs : ∀ c ∈ cs, c.toNat < 0x80)
    (hds : ∀ d ∈ ds, d.toNat < 0x80) : compare (bytesOf cs) (bytesOf ds) = compare cs ds := by
  induction cs generalizing ds with
  | nil =>
    cases ds with
    | nil => rfl
    | cons d ds =>
      rw [bytesOf_cons, utf8EncodeChar_of_ascii (hds d List.mem_cons_self)]
      rfl
  | cons c cs ih =>
    obtain ⟨hc, hcs⟩ := List.forall_mem_cons.mp hcs
    cases ds with
    | nil =>
      rw [bytesOf_cons, utf8EncodeChar_of_ascii hc]
      rfl
    | cons d ds =>
      obtain ⟨hd, hds⟩ := List.forall_mem_cons.mp hds
      rw [bytesOf_cons, bytesOf_cons, utf8EncodeChar_of_ascii hc, utf8EncodeChar_of_ascii hd,
        List.singleton_append, List.singleton_append, List.compare_cons_cons,
        List.compare_cons_cons, compare_ofNat_toNat hc hd, ih hcs hds]

theorem bytesOf_ne_nil {cs : List Char} (h : cs ≠ []) : bytesOf cs ≠ [] := by
  obtain ⟨c, rest, rfl⟩ := List.exists_cons_of_ne_nil h
  rw [bytesOf_cons]
  exact List.append_ne_nil_of_left_ne_nil String.utf8EncodeChar_ne_nil _

/-- A text is parted in one way after so many bytes. -/
theorem append_inj_of_length_bytesOf {a b c d : List Char} (h : a ++ b = c ++ d)
    (hlength : (bytesOf a).length = (bytesOf c).length) : a = c ∧ b = d := by
  have hnil {e : List Char} (he : (bytesOf e).length = 0) : e = [] :=
    Decidable.byContradiction fun hne => bytesOf_ne_nil hne (List.length_eq_zero_iff.mp he)
  rcases List.append_eq_append_iff.mp h with ⟨e, rfl, rfl⟩ | ⟨e, rfl, rfl⟩
  · rw [bytesOf_append, List.length_append] at hlength
    rw [hnil (e := e) (by omega)]
    simp
  · rw [bytesOf_append, List.length_append] at hlength
    rw [hnil (e := e) (by omega)]
    simp

/-- The first byte of a text is one of its first character. -/
theorem exists_head_of_bytesOf {cs : List Char} {b : UInt8} (hb : b ∈ (bytesOf cs).head?) :
    ∃ c ∈ cs.head?, b ∈ String.utf8EncodeChar c := by
  cases cs with
  | nil => cases hb
  | cons c cs =>
    obtain ⟨first, more, hfirst⟩ :=
      List.exists_cons_of_ne_nil (String.utf8EncodeChar_ne_nil (c := c))
    rw [bytesOf_cons, hfirst] at hb
    obtain rfl : first = b := Option.some.inj hb
    exact ⟨c, rfl, hfirst ▸ List.mem_cons_self⟩

theorem utf8_eq_bytesOf (s : String) : utf8 s = bytesOf s.toList := by
  have hbytes : s.toByteArray = s.toList.utf8Encode := by
    rw [String.utf8Encode_toList]
  rw [utf8, String.toUTF8_eq_toByteArray, hbytes]
  simp [List.utf8Encode, bytesOf]

theorem length_utf8 (s : String) : (utf8 s).length = s.utf8ByteSize := by
  rw [utf8, String.toUTF8_eq_toByteArray]
  exact String.size_toByteArray

theorem utf8ByteSize_eq (s : String) : s.utf8ByteSize = (bytesOf s.toList).length := by
  rw [← length_utf8, utf8_eq_bytesOf]

theorem ofUtf8?_utf8 (s : String) : ofUtf8? (utf8 s) = some s := by
  have hbytes : (⟨(utf8 s).toArray⟩ : ByteArray) = s.toByteArray := rfl
  rw [ofUtf8?, hbytes, String.fromUTF8?, dif_pos s.isValidUTF8]
  rfl

end Text

namespace Json

/-! ## Steps of the reader -/

/-- A byte that stands for itself inside a string. -/
structure IsPlain (b : UInt8) : Prop where
  ne_quote : b ≠ 0x22
  ne_backslash : b ≠ 0x5c
  not_control : ¬ b < 0x20

theorem readString_append_plain {bytes : List UInt8} (hplain : ∀ b ∈ bytes, IsPlain b)
    (taken rest : List UInt8) :
    readString taken (bytes ++ rest) = readString (bytes.reverse ++ taken) rest := by
  induction bytes generalizing taken with
  | nil => rfl
  | cons b bytes ih =>
    obtain ⟨hb, hbytes⟩ := List.forall_mem_cons.mp hplain
    have hstep : readString taken (b :: (bytes ++ rest)) =
        readString (b :: taken) (bytes ++ rest) := by
      rw [readString.eq_7 taken b (bytes ++ rest) hb.ne_quote
        (fun h => absurd h hb.ne_backslash) (fun _ _ _ _ _ h => absurd h hb.ne_backslash)
        (fun _ h => absurd h hb.ne_backslash) (fun _ _ h => absurd h hb.ne_backslash),
        if_neg hb.not_control]
    rw [List.cons_append, hstep, ih hbytes, List.reverse_cons, List.append_assoc]
    rfl

theorem readString_escape {b : UInt8} {c : Char} (hescaped : escaped? b = some c)
    (taken rest : List UInt8) :
    readString taken (0x5c :: b :: rest) =
      readString ((String.utf8EncodeChar c).reverse ++ taken) rest := by
  have hletter : b ≠ 0x75 := by
    rintro rfl
    cases hescaped
  rw [readString.eq_6 taken b rest (fun _ _ _ _ _ h => absurd h hletter)
    (fun h => absurd h hletter), hescaped]

/-- An escape of four digits, if what it stands for is below the surrogates. -/
theorem readString_unit {a b c d : UInt8} {unit : Nat} (hunit : hexUnit? a b c d = some unit)
    (hlt : unit < 0xd800) (taken rest : List UInt8) :
    readString taken (0x5c :: 0x75 :: a :: b :: c :: d :: rest) =
      readString ((String.utf8EncodeChar (Char.ofNat unit)).reverse ++ taken) rest := by
  have hlow : ¬ (0xdc00 ≤ unit) := by omega
  have hhigh : ¬ (0xd800 ≤ unit) := by omega
  rw [readString.eq_4, hunit]
  simp only [hlow, hhigh, decide_false, Bool.false_and, Bool.false_eq_true, if_false]

/-! ## Characters as they are written -/

theorem isPlain_ofNat {n : Nat} (hlow : 0x20 ≤ n) (hquote : n ≠ 0x22) (hbackslash : n ≠ 0x5c)
    (hhigh : n < 0x100) : IsPlain (UInt8.ofNat n) := by
  have htoNat : (UInt8.ofNat n).toNat = n := UInt8.toNat_ofNat_of_lt' hhigh
  constructor
  · intro h
    rw [h] at htoNat
    exact hquote htoNat.symm
  · intro h
    rw [h] at htoNat
    exact hbackslash htoNat.symm
  · rw [UInt8.lt_iff_toNat_lt, htoNat]
    exact Nat.not_lt.mpr hlow

/-- The bytes of a character stand for themselves, unless the character is a
control character, the quote or the backslash. -/
theorem isPlain_of_mem_utf8EncodeChar {c : Char} (hquote : c ≠ '"') (hbackslash : c ≠ '\\')
    (hcontrol : ¬ c.toNat < 0x20) {b : UInt8} (hb : b ∈ String.utf8EncodeChar c) :
    IsPlain b := by
  rcases Text.byte_cases hb with ⟨hascii, rfl⟩ | ⟨n, hlow, hhigh, rfl⟩
  · have hne {d : Char} (h : c ≠ d) : c.toNat ≠ d.toNat := fun heq => h (Char.toNat_inj.mp heq)
    exact isPlain_ofNat (Nat.not_lt.mp hcontrol) (hne hquote) (hne hbackslash) (by omega)
  · exact isPlain_ofNat (by omega) (by omega) (by omega) hhigh

/-- The digits of a control character are read as its number. -/
theorem hexUnit?_of_lt {n : Nat} (hn : n < 0x20) :
    hexUnit? 0x30 0x30 (UInt8.ofNat (Nat.digitChar (n / 16)).toNat)
      (UInt8.ofNat (Nat.digitChar (n % 16)).toNat) = some n := by
  revert n
  decide

theorem readString_charText (c : Char) (taken rest : List UInt8) :
    readString taken (Text.bytesOf (charText c) ++ rest) =
      readString ((String.utf8EncodeChar c).reverse ++ taken) rest := by
  unfold charText
  split
  case h_8 hquote hbackslash _ _ _ _ _ =>
    split
    next hcontrol =>
      have hdigits : Text.bytesOf
          ['\\', 'u', '0', '0', Nat.digitChar (c.toNat / 16), Nat.digitChar (c.toNat % 16)] =
          [0x5c, 0x75, 0x30, 0x30, UInt8.ofNat (Nat.digitChar (c.toNat / 16)).toNat,
            UInt8.ofNat (Nat.digitChar (c.toNat % 16)).toNat] := by
        revert hcontrol
        generalize c.toNat = n
        revert n
        decide
      rw [hdigits]
      have := readString_unit (hexUnit?_of_lt hcontrol) (by omega) taken rest
      rw [Char.ofNat_toNat] at this
      exact this
    next hcontrol =>
      rw [Text.bytesOf_cons, Text.bytesOf_nil, List.append_nil]
      exact readString_append_plain
        (fun b hb => isPlain_of_mem_utf8EncodeChar hquote hbackslash hcontrol hb) taken rest
  all_goals exact readString_escape rfl taken rest

/-! ## Strings -/

theorem readString_flatMap_charText (cs : List Char) (taken rest : List UInt8) :
    readString taken (Text.bytesOf (cs.flatMap charText) ++ rest) =
      readString ((Text.bytesOf cs).reverse ++ taken) rest := by
  induction cs generalizing taken with
  | nil => rfl
  | cons c cs ih =>
    rw [List.flatMap_cons, Text.bytesOf_append, List.append_assoc, readString_charText, ih,
      Text.bytesOf_cons, List.reverse_append, List.append_assoc]

theorem utf8_stringText (s : String) :
    Text.utf8 (stringText s) = 0x22 :: (Text.bytesOf (s.toList.flatMap charText) ++ [0x22]) := by
  have hchars : (stringText s).toList = '"' :: (s.toList.flatMap charText ++ ['"']) := by
    simp [stringText]
  rw [Text.utf8_eq_bytesOf, hchars, Text.bytesOf_cons, Text.bytesOf_append]
  rfl

/-- The text of a string reads back, and what follows it is left. -/
theorem readString_stringText (s : String) (rest : List UInt8) :
    readString [] ((Text.utf8 (stringText s)).tail ++ rest) = .ok (s, rest) := by
  rw [utf8_stringText, List.tail_cons, List.append_assoc, readString_flatMap_charText,
    List.append_nil, ← Text.utf8_eq_bytesOf]
  change readString _ (0x22 :: rest) = _
  rw [readString, List.reverse_reverse, Text.ofUtf8?_utf8]

theorem readValue_quote (fuel depth : Nat) (bytes : List UInt8) :
    readValue fuel depth (0x22 :: bytes) =
      (readString [] bytes).map fun (s, rest) => (string s, rest) := by
  have hread : readValue fuel depth (0x22 :: bytes) = (do
      let (s, rest) ← readString [] bytes
      return (string s, rest)) := by
    cases depth <;> rfl
  rw [hread]
  cases readString [] bytes <;> rfl

/-- The text of a string is read as that string. -/
theorem read_stringText (s : String) : read (Text.utf8 (stringText s)) = .ok (.string s) := by
  have hstring := readString_stringText s []
  rw [List.append_nil, utf8_stringText, List.tail_cons] at hstring
  rw [read, utf8_stringText, readValue_quote, hstring]
  rfl

end Json

end JdkCatalog
