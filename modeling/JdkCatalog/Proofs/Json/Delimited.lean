import JdkCatalog.Proofs.Json.Parts
import JdkCatalog.Proofs.Json.Text
import JdkCatalog.Proofs.Text.Delimited

/-!
# Texts in JSON end where they end

Compact texts of values may be followed by anything that is no part of a number, and it
is still plain where they end (`endsItself`).  The values may differ all the same, since
what is written of a number need not tell what kind of number it is.

* The first character of a text announces the kind of the value
  (`exists_head_text`), so that only texts of one kind have to be compared.
* A number is a run of its characters (`isNumberChar_of_mem_text`), and a string is read
  by the reader for strings (`stringText_append_inj`).
* Arrays and objects are lists of items with commas between them.
-/

namespace JdkCatalog.Json

/-! ## Numbers -/

/-- The characters that numbers are written with. -/
def isNumberChar (c : Char) : Bool :=
  c.isDigit || c == '-' || c == '+' || c == '.' || c == 'e'

theorem isNumberChar_of_isDigit {c : Char} (hc : c.isDigit = true) : isNumberChar c = true := by
  simp [isNumberChar, hc]

theorem isNumberChar_of_mem_toDigits {n : Nat} :
    ∀ c ∈ Nat.toDigits 10 n, isNumberChar c = true := fun _ hc =>
  isNumberChar_of_isDigit (Nat.isDigit_of_mem_toDigits (by decide) (by decide) hc)

theorem isNumberChar_of_mem_repr {n : Nat} : ∀ c ∈ n.repr.toList, isNumberChar c = true := by
  rw [Nat.toList_repr]
  exact isNumberChar_of_mem_toDigits

theorem isNumberChar_of_mem_replicate {n : Nat} :
    ∀ c ∈ List.replicate n '0', isNumberChar c = true := fun c hc => by
  rw [List.eq_of_mem_replicate hc]
  rfl

theorem isNumberChar_of_mem_positional (d : Number.Decimal) :
    ∀ c ∈ d.positional.toList, isNumberChar c = true := by
  unfold Number.Decimal.positional
  dsimp only
  split
  · rw [String.toList_ofList, List.forall_mem_append, List.forall_mem_append]
    exact ⟨⟨isNumberChar_of_mem_toDigits, isNumberChar_of_mem_replicate⟩,
      List.all_eq_true.mp rfl⟩
  · have hpadded : ∀ c ∈ List.replicate ((-d.exponent).toNat + 1 -
        (Nat.toDigits 10 d.digits).length) '0' ++ Nat.toDigits 10 d.digits,
        isNumberChar c = true :=
      List.forall_mem_append.mpr ⟨isNumberChar_of_mem_replicate, isNumberChar_of_mem_toDigits⟩
    rw [String.toList_ofList, List.forall_mem_append, List.forall_mem_cons]
    exact ⟨fun c hc => hpadded c (List.mem_of_mem_take hc), rfl,
      fun c hc => hpadded c (List.mem_of_mem_drop hc)⟩

theorem isNumberChar_of_mem_scientific (d : Number.Decimal) :
    ∀ c ∈ d.scientific.toList, isNumberChar c = true := by
  have hdigits := isNumberChar_of_mem_toDigits (n := d.digits)
  have hfraction : ∀ c ∈ (if (Nat.toDigits 10 d.digits).tail.isEmpty then []
      else '.' :: (Nat.toDigits 10 d.digits).tail), isNumberChar c = true := by
    split
    · exact List.forall_mem_nil _
    · exact List.forall_mem_cons.mpr ⟨rfl, fun c hc => hdigits c (List.mem_of_mem_tail hc)⟩
  have hsign : ∀ c ∈ ['e', if d.leadingExponent < 0 then '-' else '+'],
      isNumberChar c = true := by
    split <;> exact List.all_eq_true.mp rfl
  unfold Number.Decimal.scientific
  dsimp only
  rw [String.toList_append, String.toList_ofList]
  simp only [List.forall_mem_append]
  exact ⟨⟨⟨fun c hc => hdigits c (List.mem_of_mem_take hc), hfraction⟩, hsign⟩,
    isNumberChar_of_mem_repr⟩

theorem isNumberChar_of_mem_doubleText (x : Number.Binary64) :
    ∀ c ∈ (Numeral.doubleText x).toList, isNumberChar c = true := by
  unfold Numeral.doubleText
  dsimp only
  split
  · exact List.all_eq_true.mp rfl
  · split
    · exact isNumberChar_of_mem_positional _
    · exact isNumberChar_of_mem_scientific _

theorem isNumberChar_of_mem_text (n : Numeral) : ∀ c ∈ n.text.toList, isNumberChar c = true := by
  cases n with
  | natural n => exact isNumberChar_of_mem_repr
  | negative n =>
    rw [Numeral.text, String.toList_append, List.forall_mem_append]
    exact ⟨List.all_eq_true.mp rfl, isNumberChar_of_mem_repr⟩
  | double isNegative magnitude =>
    have hsign : ∀ c ∈ (if isNegative then "-" else "").toList, isNumberChar c = true := by
      cases isNegative <;> exact List.all_eq_true.mp rfl
    rw [Numeral.text, String.toList_append, List.forall_mem_append]
    exact ⟨hsign, isNumberChar_of_mem_doubleText magnitude⟩

theorem doubleText_ne_nil (x : Number.Binary64) : (Numeral.doubleText x).toList ≠ [] := by
  unfold Numeral.doubleText Number.Decimal.positional Number.Decimal.scientific
  dsimp only
  split
  · exact List.cons_ne_nil '0' _
  · split
    · split <;> simp
    · simp

theorem numeralText_ne_nil (n : Numeral) : n.text.toList ≠ [] := by
  cases n with
  | natural n =>
    rw [Numeral.text, Nat.toList_repr]
    exact Nat.toDigits_ne_nil
  | negative n => simp [Numeral.text]
  | double isNegative magnitude =>
    rw [Numeral.text, String.toList_append]
    exact List.append_ne_nil_of_right_ne_nil _ (doubleText_ne_nil magnitude)

/-! ## Strings -/

theorem stringText_append_inj {a b : String} {r s : List Char}
    (h : (stringText a).toList ++ r = (stringText b).toList ++ s) : a = b ∧ r = s := by
  have hbytes : (Text.utf8 (stringText a)).tail ++ Text.bytesOf r =
      (Text.utf8 (stringText b)).tail ++ Text.bytesOf s := by
    have hboth := congrArg (fun cs => (Text.bytesOf cs).tail) h
    simp only [Text.bytesOf_append, ← Text.utf8_eq_bytesOf] at hboth
    rw [utf8_stringText, utf8_stringText] at hboth ⊢
    exact hboth
  have hread := readString_stringText a (Text.bytesOf r)
  rw [hbytes, readString_stringText] at hread
  obtain ⟨rfl, -⟩ := Prod.mk.inj (Except.ok.inj hread)
  exact ⟨rfl, List.append_cancel_left h⟩

/-! ## What the first character announces -/

/-- The kinds of values, as far as their texts start differently. -/
inductive Kind where
  | null
  | bool (value : Bool)
  | number
  | string
  | array
  | object

/-- The kind of a value. -/
def kind : Json → Kind
  | .null => .null
  | bool value => .bool value
  | number _ => .number
  | string _ => .string
  | array _ => .array
  | object _ => .object

/-- The kind of the values whose texts start with a character, if any do. -/
def announced? (c : Char) : Option Kind :=
  match c with
  | 'n' => some .null
  | 't' => some (.bool true)
  | 'f' => some (.bool false)
  | '"' => some .string
  | '[' => some .array
  | '\x7b' => some .object
  | c => if isNumberChar c then some .number else none

theorem announced?_of_isNumberChar {c : Char} (hc : isNumberChar c = true) :
    announced? c = some .number := by
  unfold announced?
  split
  case h_7 => exact if_pos hc
  all_goals exact absurd hc (by decide)

theorem toList_text_array (items : List Json) :
    (array items).text.toList =
      '[' :: ([','].intercalate (items.map fun item => item.text.toList) ++ [']']) := by
  rw [text, text.itemTexts_eq_map]
  simp [String.toList_intercalate, Function.comp_def]

/-- The text of a member of an object. -/
def memberText (member : String × Json) : List Char :=
  (stringText member.1).toList ++ ':' :: member.2.text.toList

theorem text.memberTexts_eq_map (members : List (String × Json)) :
    (memberTexts members).map String.toList = members.map memberText := by
  induction members with
  | nil => rfl
  | cons member members ih =>
    rw [memberTexts, List.map_cons, ih, List.map_cons, memberText]
    simp

theorem toList_text_object (members : List (String × Json)) :
    (object members).text.toList =
      '\x7b' :: ([','].intercalate (members.map memberText) ++ ['\x7d']) := by
  rw [text, String.toList_append, String.toList_append, String.toList_intercalate,
    text.memberTexts_eq_map]
  rfl

theorem exists_head_text (value : Json) :
    ∃ c rest, value.text.toList = c :: rest ∧ announced? c = some value.kind := by
  cases value with
  | null => exact ⟨'n', _, rfl, rfl⟩
  | bool value => cases value <;> exact ⟨_, _, rfl, rfl⟩
  | number n =>
    obtain ⟨c, rest, hn⟩ := List.exists_cons_of_ne_nil (numeralText_ne_nil n)
    have hc := isNumberChar_of_mem_text n c (hn ▸ List.mem_cons_self)
    exact ⟨c, rest, hn, announced?_of_isNumberChar hc⟩
  | string s => exact ⟨'"', s.toList.flatMap charText ++ ['"'], by simp [text, stringText], rfl⟩
  | array items => exact ⟨'[', _, toList_text_array items, rfl⟩
  | object members => exact ⟨'\x7b', _, toList_text_object members, rfl⟩

theorem kind_eq_of_append_eq {value value' : Json} {r s : List Char}
    (h : value.text.toList ++ r = value'.text.toList ++ s) : value.kind = value'.kind := by
  obtain ⟨c, rest, htext, hc⟩ := exists_head_text value
  obtain ⟨c', rest', htext', hc'⟩ := exists_head_text value'
  rw [htext, htext', List.cons_append, List.cons_append] at h
  rw [List.head_eq_of_cons_eq h] at hc
  exact Option.some.inj (hc.symm.trans hc')

theorem text_append_ne_cons {c : Char} (hc : announced? c = none) (value : Json)
    (rest rest' : List Char) : value.text.toList ++ rest ≠ c :: rest' := by
  obtain ⟨d, more, htext, hd⟩ := exists_head_text value
  intro h
  rw [htext, List.cons_append] at h
  rw [List.head_eq_of_cons_eq h, hc] at hd
  cases hd

/-! ## Values -/

/-- The relation of values that are written in the same way. -/
def SameText (value value' : Json) : Prop :=
  value.text = value'.text

/-- The relation of members that are written in the same way. -/
def SameMember (member member' : String × Json) : Prop :=
  member.1 = member'.1 ∧ SameText member.2 member'.2

/-- A comma stands between two items. -/
theorem isSeparator_comma {close : Char} (hclose : ',' ≠ close) :
    Text.IsSeparator isNumberChar close [','] :=
  Text.isSeparator_cons rfl hclose

theorem comma_append_inj (x y : List Char) (h : [','] ++ x = [','] ++ y) :
    [','] = [','] ∧ x = y :=
  ⟨rfl, List.append_cancel_left h⟩

theorem text_array_congr {items items' : List Json} (h : List.Forall₂ SameText items items') :
    (array items).text = (array items').text := by
  have hmap : items.map text = items'.map text := by
    rw [← List.forall₂_eq_eq_eq, List.forall₂_map_left_iff, List.forall₂_map_right_iff]
    exact h
  rw [text, text, text.itemTexts_eq_map, text.itemTexts_eq_map, hmap]

theorem text_object_congr {members members' : List (String × Json)}
    (h : List.Forall₂ SameMember members members') :
    (object members).text = (object members').text := by
  have hmember (member member' : String × Json) (hsame : SameMember member member') :
      memberText member = memberText member' := by
    rw [memberText, memberText, hsame.1, hsame.2]
  have hmap : members.map memberText = members'.map memberText := by
    rw [← List.forall₂_eq_eq_eq, List.forall₂_map_left_iff, List.forall₂_map_right_iff]
    exact h.imp hmember
  rw [← String.toList_inj, toList_text_object, toList_text_object, hmap]

/-- The values are written in the same way, if their texts and what follows them are
together the same. -/
abbrev EndsItself (value value' : Json) : Prop :=
  Text.TellsApart (fun value : Json => value.text.toList) SameText isNumberChar value value'

theorem endsItself_number (m n : Numeral) : EndsItself (number m) (number n) := by
  intro r s hr hs h
  obtain ⟨hmn, hrs⟩ := Text.append_inj_of_noneAhead (isNumberChar_of_mem_text m)
    (isNumberChar_of_mem_text n) hr hs h
  exact ⟨String.toList_inj.mp hmn, hrs⟩

theorem endsItself_string (a b : String) : EndsItself (string a) (string b) := by
  intro r s _ _ h
  obtain ⟨rfl, hrs⟩ := stringText_append_inj h
  exact ⟨rfl, hrs⟩

theorem endsItself_array {items items' : List Json}
    (hitems : ∀ item ∈ items, ∀ item' ∈ items', EndsItself item item') :
    EndsItself (array items) (array items') := by
  intro r s _ _ h
  dsimp only at h
  rw [toList_text_array, toList_text_array, List.cons_append, List.cons_append,
    List.append_assoc, List.append_assoc] at h
  have hcomma : Text.IsSeparator isNumberChar ']' [','] := isSeparator_comma (by decide)
  obtain ⟨hsame, hrs, -⟩ := Text.forall₂_of_intercalate_eq hcomma hcomma rfl comma_append_inj
    (text_append_ne_cons rfl) hitems (List.tail_eq_of_cons_eq h)
  exact ⟨text_array_congr hsame, hrs⟩

/-- A member ends where its value does. -/
theorem endsItself_member {member member' : String × Json}
    (hvalue : EndsItself member.2 member'.2) :
    Text.TellsApart memberText SameMember isNumberChar member member' := by
  intro r s hr hs h
  rw [memberText, memberText, List.append_assoc, List.append_assoc] at h
  obtain ⟨hkey, h⟩ := stringText_append_inj h
  obtain ⟨hsame, hrs⟩ := hvalue hr hs (List.tail_eq_of_cons_eq h)
  exact ⟨⟨hkey, hsame⟩, hrs⟩

theorem memberText_append_ne_brace (member : String × Json) (rest rest' : List Char) :
    memberText member ++ rest ≠ '\x7d' :: rest' := by
  intro h
  have hquote : '"' = '\x7d' := by
    simpa [memberText, stringText] using congrArg List.head? h
  exact absurd hquote (by decide)

theorem endsItself_object {members members' : List (String × Json)}
    (hvalues : ∀ member ∈ members, ∀ member' ∈ members', EndsItself member.2 member'.2) :
    EndsItself (object members) (object members') := by
  intro r s _ _ h
  dsimp only at h
  rw [toList_text_object, toList_text_object, List.cons_append, List.cons_append,
    List.append_assoc, List.append_assoc] at h
  have hmembers : ∀ member ∈ members, ∀ member' ∈ members',
      Text.TellsApart memberText SameMember isNumberChar member member' :=
    fun member hmem member' hmem' => endsItself_member (hvalues member hmem member' hmem')
  have hcomma : Text.IsSeparator isNumberChar '\x7d' [','] := isSeparator_comma (by decide)
  obtain ⟨hsame, hrs, -⟩ := Text.forall₂_of_intercalate_eq hcomma hcomma rfl comma_append_inj
    memberText_append_ne_brace hmembers (List.tail_eq_of_cons_eq h)
  exact ⟨text_object_congr hsame, hrs⟩

/-- The texts of two values are the same, and so is what follows them, if they are
together the same.  The induction is on the size of the first value; the second one is
of the same kind. -/
theorem endsItself (value value' : Json) : EndsItself value value' := by
  induction value using (measure (sizeOf : Json → Nat)).wf.induction generalizing value'
    with | _ value ih => ?_
  intro r s hr hs h
  have hkind := kind_eq_of_append_eq h
  cases value with
  | null =>
    cases value' with
    | null => exact ⟨rfl, List.append_cancel_left h⟩
    | _ => cases hkind
  | bool value =>
    cases value' with
    | bool value' =>
      cases hkind
      exact ⟨rfl, List.append_cancel_left h⟩
    | _ => cases hkind
  | number m =>
    cases value' with
    | number n => exact endsItself_number m n hr hs h
    | _ => cases hkind
  | string a =>
    cases value' with
    | string b => exact endsItself_string a b hr hs h
    | _ => cases hkind
  | array items =>
    cases value' with
    | array items' =>
      exact endsItself_array (fun item hmem item' _ => ih item (sizeOf_lt_of_mem hmem) item')
        hr hs h
    | _ => cases hkind
  | object members =>
    cases value' with
    | object members' =>
      exact endsItself_object
        (fun member hmem member' _ => ih member.2 (sizeOf_lt_of_member hmem) member'.2) hr hs h
    | _ => cases hkind

end JdkCatalog.Json
