import JdkCatalog.Proofs.BuildNumber.RoundTrip
import JdkCatalog.Proofs.Filter.Alike
import JdkCatalog.Proofs.Filter.Meaning
import JdkCatalog.Proofs.Filter.Parts
import JdkCatalog.Proofs.Json.Delimited
import JdkCatalog.Proofs.Text.Quoted

/-!
# The text of a filter determines it

A filter is written with words between its items, and its leaves hold texts that have
such words, brackets and quotes in them as well: malformed bounds, and values of unknown
kinds.  The text can be read in one way all the same, since each part of it ends where
it ends, whatever comes after it.

* `tellsApart_side` is about the two sides of a range.
* `announced?_text` tells the kind of a filter from its first characters.
* `EndsItself` says of two filters what is shown of all of them, and there is a lemma for
  each kind: `IsList.endsItself`, `endsItself_negation`, `endsItself_builds` and
  `endsItself_unrecognized`.  `endsItself` is the induction.
* `QuotesJson` is what filters from JSON have in common (`quotesJson_ofJson`).  The text
  of an unknown kind can be found the end of because it is that of a value.
-/

namespace JdkCatalog.Filter

/-! ## Sides of ranges -/

theorem toList_text_malformed (s : String) :
    (Bound.malformed s).text.toList =
      "<malformed ".toList ++ ((Text.quoted s).toList ++ ['>']) := by
  rw [Bound.text, String.toList_append, String.toList_append, List.append_assoc]
  rfl

/-- The first character of a side tells whether it is open, malformed or a build
number. -/
theorem exists_head_sideText (side : Option Bound) :
    ∃ c rest, (sideText side).toList = c :: rest ∧ (c = '*' ↔ side = none) ∧
      (c = '<' ↔ ∃ s, side = some (.malformed s)) := by
  rcases side with _ | (b | s)
  · exact ⟨'*', [], rfl, by simp, by simp⟩
  · obtain ⟨c, rest, htext⟩ := List.exists_cons_of_ne_nil b.toList_text_ne_nil
    have hc := b.isWritten_of_mem_text c (htext ▸ List.mem_cons_self)
    have hstar : c ≠ '*' := by
      rintro rfl
      cases hc
    have hopen : c ≠ '<' := by
      rintro rfl
      cases hc
    exact ⟨c, rest, htext, by simp [hstar], by simp [hopen]⟩
  · exact ⟨'<', _, toList_text_malformed s, by simp, by simp⟩

theorem tellsApart_side (side side' : Option Bound) :
    Text.TellsApart (fun side => (sideText side).toList) Eq BuildNumber.isWritten side side' := by
  intro r s hr hs h
  dsimp only at h
  obtain ⟨c, rest, htext, hopen, hmalformed⟩ := exists_head_sideText side
  obtain ⟨c', rest', htext', hopen', hmalformed'⟩ := exists_head_sideText side'
  obtain rfl : c = c' := by
    rw [htext, htext'] at h
    exact List.head_eq_of_cons_eq h
  rcases side with _ | (b | a)
  · obtain rfl : side' = none := hopen'.mp (hopen.mpr rfl)
    exact ⟨rfl, List.append_cancel_left h⟩
  · have hside' : ∃ b', side' = some (.build b') := by
      rcases side' with _ | (b' | a')
      · cases hopen.mp (hopen'.mpr rfl)
      · exact ⟨b', rfl⟩
      · obtain ⟨a, ha⟩ := hmalformed.mp (hmalformed'.mpr ⟨a', rfl⟩)
        cases ha
    obtain ⟨b', rfl⟩ := hside'
    obtain ⟨hbuild, hrs⟩ := Text.append_inj_of_noneAhead b.isWritten_of_mem_text
      b'.isWritten_of_mem_text hr hs h
    rw [BuildNumber.text_inj.mp (String.toList_inj.mp hbuild)]
    exact ⟨rfl, hrs⟩
  · obtain ⟨a', rfl⟩ := hmalformed'.mp (hmalformed.mpr ⟨a, rfl⟩)
    change (Bound.malformed a).text.toList ++ r = (Bound.malformed a').text.toList ++ s at h
    rw [toList_text_malformed, toList_text_malformed] at h
    simp only [List.append_assoc, List.append_cancel_left_eq] at h
    obtain ⟨rfl, hrs⟩ := Text.quoted_append_inj h
    exact ⟨rfl, List.append_cancel_left hrs⟩

/-! ## What the first characters announce -/

/-- The kinds of filters, as far as their texts start differently. -/
inductive Kind where
  | yes
  | no
  | list
  | negation
  | builds
  | unrecognized

/-- The kind of a filter. -/
def kind : Filter → Kind
  | literal true => .yes
  | literal false => .no
  | all _ | any _ => .list
  | negation _ => .negation
  | builds _ _ => .builds
  | unrecognized _ => .unrecognized

/-- The kind of the filters whose texts start like a text, if any do.  No text of an item
starts like the word of a negation. -/
def announced? : List Char → Option Kind
  | 't' :: _ => some .yes
  | 'f' :: _ => some .no
  | '(' :: 'N' :: _ => some .negation
  | '(' :: _ => some .list
  | 'b' :: _ => some .builds
  | '<' :: _ => some .unrecognized
  | _ => none

/-- The characters that texts of filters start with. -/
def isFirst (c : Char) : Bool :=
  ['t', 'f', '(', 'b', '<'].contains c

theorem exists_head_text (filter : Filter) :
    ∃ c rest, filter.text.toList = c :: rest ∧ isFirst c = true := by
  cases filter with
  | literal value => cases value <;> exact ⟨_, _, rfl, rfl⟩
  | all items => exact ⟨'(', _, toList_text_all items, rfl⟩
  | any items => exact ⟨'(', _, toList_text_any items, rfl⟩
  | negation item => exact ⟨'(', _, toList_text_negation item, rfl⟩
  | builds earliest latest => exact ⟨'b', _, toList_text_builds earliest latest, rfl⟩
  | unrecognized s => exact ⟨'<', _, toList_text_unrecognized s, rfl⟩

theorem text_append_ne_cons {c : Char} (hc : isFirst c = false) (filter : Filter)
    (rest rest' : List Char) : filter.text.toList ++ rest ≠ c :: rest' := by
  obtain ⟨d, more, htext, hd⟩ := exists_head_text filter
  intro h
  rw [htext, List.cons_append] at h
  rw [List.head_eq_of_cons_eq h, hc] at hd
  cases hd

theorem announced?_listText (sep : String) (items : List Filter) (rest : List Char) :
    announced? (listText sep items ++ rest) = some .list := by
  cases items with
  | nil => rfl
  | cons item items =>
    obtain ⟨c, more, htext, hc⟩ := exists_head_text item
    rw [listText, List.map_cons, Text.intercalate_cons, htext]
    have hne : c ≠ 'N' := by
      rintro rfl
      cases hc
    simp [announced?, hne]

theorem announced?_text (filter : Filter) (rest : List Char) :
    announced? (filter.text.toList ++ rest) = some filter.kind := by
  cases filter with
  | literal value => cases value <;> rfl
  | all items =>
    rw [toList_text_all]
    exact announced?_listText " AND " items rest
  | any items =>
    rw [toList_text_any]
    exact announced?_listText " OR " items rest
  | negation item =>
    rw [toList_text_negation]
    rfl
  | builds earliest latest =>
    rw [toList_text_builds]
    rfl
  | unrecognized s =>
    rw [toList_text_unrecognized]
    rfl

theorem kind_eq_of_append_eq {filter filter' : Filter} {r s : List Char}
    (h : filter.text.toList ++ r = filter'.text.toList ++ s) : filter.kind = filter'.kind := by
  have hfirst := announced?_text filter r
  rw [h, announced?_text] at hfirst
  exact (Option.some.inj hfirst).symm

/-! ## Where filters end -/

/-- What is said of the nodes of unknown kinds are texts of values. -/
def QuotesJson (filter : Filter) : Prop :=
  Everywhere (fun _ part => ∀ s, part = unrecognized s → ∃ value : Json, s = value.text) filter

/-- Nothing has to come after a filter for it to end. -/
abbrev anywhere : Char → Bool :=
  fun _ => false

theorem noneAhead_anywhere (rest : List Char) : Text.NoneAhead anywhere rest :=
  fun _ _ => rfl

/-- The filters are alike, if their texts and what follows them are together the same. -/
abbrev EndsItself (filter filter' : Filter) : Prop :=
  Text.TellsApart (fun filter : Filter => filter.text.toList) Alike anywhere filter filter'

/-- A filter is a list of items, with a word between any two. -/
inductive IsList : Filter → String → List Filter → Prop where
  | all (items : List Filter) : IsList (all items) " AND " items
  | any (items : List Filter) : IsList (any items) " OR " items

section

variable {filter filter' : Filter} {sep sep' : String} {items items' : List Filter}

theorem exists_isList (h : filter.kind = .list) : ∃ sep items, IsList filter sep items := by
  match filter, h with
  | Filter.all items, _ => exact ⟨_, items, .all items⟩
  | Filter.any items, _ => exact ⟨_, items, .any items⟩

theorem IsList.kind_eq (h : IsList filter sep items) : filter.kind = .list := by
  cases h <;> rfl

theorem IsList.toList_text (h : IsList filter sep items) :
    filter.text.toList = listText sep items := by
  cases h with
  | all => exact toList_text_all items
  | any => exact toList_text_any items

theorem IsList.quotesJson (h : IsList filter sep items) (hfilter : QuotesJson filter) :
    ∀ item ∈ items, QuotesJson item := by
  cases h with
  | all => exact (everywhere_all_iff.mp hfilter).2
  | any => exact (everywhere_any_iff.mp hfilter).2

theorem IsList.isSeparator (h : IsList filter sep items) :
    Text.IsSeparator anywhere ')' sep.toList := by
  cases h <;> exact Text.isSeparator_cons rfl (by decide)

theorem IsList.word_append_inj (h : IsList filter sep items) (h' : IsList filter' sep' items')
    (x y : List Char) (hxy : sep.toList ++ x = sep'.toList ++ y) :
    sep.toList = sep'.toList ∧ x = y := by
  cases h <;> cases h'
  case all.all | any.any => exact ⟨rfl, List.append_cancel_left hxy⟩
  all_goals simp at hxy

/-- The kinds of two lists may differ if no word is written. -/
theorem IsList.alike (h : IsList filter sep items) (h' : IsList filter' sep' items')
    (hitems : List.Forall₂ Alike items items') (hsep : 2 ≤ items.length → sep = sep') :
    Alike filter filter' := by
  have hlength (hne : sep ≠ sep') : items.length < 2 :=
    Nat.not_le.mp fun hmany => hne (hsep hmany)
  cases h <;> cases h'
  case all.all => exact .all hitems
  case any.any => exact .any hitems
  case all.any => exact .allAny hitems (hlength (by decide))
  case any.all => exact .anyAll hitems (hlength (by decide))

/-- Two lists are alike if the items of the one are alike to the filters that are written
like them. -/
theorem IsList.endsItself (h : IsList filter sep items) (hfilter : QuotesJson filter)
    (hfilter' : QuotesJson filter')
    (ih : ∀ item ∈ items, ∀ {item' : Filter}, QuotesJson item → QuotesJson item' →
      EndsItself item item') : EndsItself filter filter' := by
  intro r s _ _ htext
  obtain ⟨sep', items', h'⟩ := exists_isList ((kind_eq_of_append_eq htext).symm.trans h.kind_eq)
  have hitems : ∀ item ∈ items, ∀ item' ∈ items', EndsItself item item' :=
    fun item hitem item' hitem' =>
      ih item hitem (h.quotesJson hfilter item hitem) (h'.quotesJson hfilter' item' hitem')
  dsimp only at htext
  rw [h.toList_text, h'.toList_text, listText, listText, List.cons_append, List.cons_append,
    List.append_assoc, List.append_assoc] at htext
  obtain ⟨halike, hrs, hseps⟩ := Text.forall₂_of_intercalate_eq h.isSeparator h'.isSeparator rfl
    (h.word_append_inj h') (text_append_ne_cons rfl) hitems (List.tail_eq_of_cons_eq htext)
  exact ⟨h.alike h' halike fun hmany => String.toList_inj.mp (hseps hmany), hrs⟩

end

theorem endsItself_negation {item item' : Filter} (hitem : EndsItself item item') :
    EndsItself (negation item) (negation item') := by
  intro r s _ _ h
  dsimp only at h
  rw [toList_text_negation, toList_text_negation] at h
  simp only [List.append_assoc, List.append_cancel_left_eq] at h
  obtain ⟨halike, h⟩ := hitem (noneAhead_anywhere _) (noneAhead_anywhere _) h
  exact ⟨.negation halike, List.append_cancel_left h⟩

theorem endsItself_builds (earliest latest earliest' latest' : Option Bound) :
    EndsItself (builds earliest latest) (builds earliest' latest') := by
  intro r s _ _ h
  dsimp only at h
  rw [toList_text_builds, toList_text_builds] at h
  simp only [List.append_assoc, List.append_cancel_left_eq] at h
  have hcomma (rest : List Char) :
      Text.NoneAhead BuildNumber.isWritten (", ".toList ++ rest) := Text.noneAhead_cons.mpr rfl
  have hbracket (rest : List Char) : Text.NoneAhead BuildNumber.isWritten ([']'] ++ rest) :=
    Text.noneAhead_cons.mpr rfl
  obtain ⟨rfl, hlatest⟩ := tellsApart_side earliest earliest' (hcomma _) (hcomma _) h
  replace hlatest := List.append_cancel_left hlatest
  obtain ⟨rfl, hrs⟩ := tellsApart_side latest latest' (hbracket _) (hbracket _) hlatest
  exact ⟨.builds earliest latest, List.append_cancel_left hrs⟩

theorem endsItself_unrecognized (value value' : Json) :
    EndsItself (unrecognized value.text) (unrecognized value'.text) := by
  intro r s _ _ h
  dsimp only at h
  rw [toList_text_unrecognized, toList_text_unrecognized] at h
  simp only [List.append_assoc, List.append_cancel_left_eq] at h
  have hclose (rest : List Char) : Text.NoneAhead Json.isNumberChar (['>'] ++ rest) :=
    Text.noneAhead_cons.mpr rfl
  obtain ⟨hsame, hrs⟩ := Json.endsItself value value' (hclose r) (hclose s) h
  rw [show value.text = value'.text from hsame]
  exact ⟨.unrecognized value'.text, List.append_cancel_left hrs⟩

/-- Filters whose texts and what follows them are together the same are alike.  The
induction is on the first tree; the root of the second one is of the same kind. -/
theorem endsItself {filter filter' : Filter} (hfilter : QuotesJson filter)
    (hfilter' : QuotesJson filter') : EndsItself filter filter' := by
  induction filter using partInduction generalizing filter' with
  | literal value =>
    intro r s _ _ h
    match value, filter', kind_eq_of_append_eq h with
    | true, literal true, _ => exact ⟨.literal true, List.append_cancel_left h⟩
    | false, literal false, _ => exact ⟨.literal false, List.append_cancel_left h⟩
  | all items ih => exact (IsList.all items).endsItself hfilter hfilter' ih
  | any items ih => exact (IsList.any items).endsItself hfilter hfilter' ih
  | negation item ih =>
    intro r s hr hs h
    match filter', kind_eq_of_append_eq h with
    | negation item', _ =>
      have hitem := (everywhere_negation_iff.mp hfilter).2
      have hitem' := (everywhere_negation_iff.mp hfilter').2
      exact endsItself_negation (ih hitem hitem') hr hs h
  | builds earliest latest =>
    intro r s hr hs h
    match filter', kind_eq_of_append_eq h with
    | builds earliest' latest', _ =>
      exact endsItself_builds earliest latest earliest' latest' hr hs h
  | unrecognized text =>
    intro r s hr hs h
    match filter', kind_eq_of_append_eq h with
    | unrecognized text', _ =>
      obtain ⟨value, rfl⟩ := hfilter.root text rfl
      obtain ⟨value', rfl⟩ := hfilter'.root text' rfl
      exact endsItself_unrecognized value value' hr hs h

/-! ## Filters from JSON -/

theorem quotesJson_unrecognized (value : Json) : QuotesJson (unrecognized value.text) :=
  everywhere_of_leaf trivial fun _ hs => ⟨value, (unrecognized.inj hs).symm⟩

/-- Every filter that is read quotes values where it was not understood.  The induction
is on the size of the value. -/
theorem quotesJson_ofJson (value : Json) : QuotesJson (ofJson value) := by
  induction value using (measure (sizeOf : Json → Nat)).wf.induction with | _ value ih => ?_
  cases value with
  | bool b => exact everywhere_of_leaf trivial fun _ hs => (nomatch hs)
  | object members =>
    have hparts {values : List Json} (hitems : members.lookup "items" = some (.array values)) :
        ∀ item ∈ values.map ofJson, QuotesJson item :=
      List.forall_mem_map.mpr fun part hpart =>
        ih part (Nat.lt_trans (Json.sizeOf_lt_of_mem hpart) (Json.sizeOf_lt_of_lookup hitems))
    rcases ofJson_object_cases members with
      ⟨values, hitems, heq | heq⟩ | ⟨part, hitem, heq⟩ | ⟨earliest, latest, heq⟩ | heq
    · rw [heq]
      exact everywhere_all_iff.mpr ⟨fun _ hs => (nomatch hs), hparts hitems⟩
    · rw [heq]
      exact everywhere_any_iff.mpr ⟨fun _ hs => (nomatch hs), hparts hitems⟩
    · have hpart := ih part (Json.sizeOf_lt_of_lookup hitem)
      rw [heq]
      exact everywhere_negation_iff.mpr ⟨fun _ hs => (nomatch hs), hpart⟩
    · rw [heq]
      exact everywhere_of_leaf trivial fun _ hs => (nomatch hs)
    · rw [heq]
      exact quotesJson_unrecognized _
  | null | number | string | array => exact quotesJson_unrecognized _

/-- Two filters from JSON have the same text if and only if their trees are alike, and
then they have the same verdict on every build. -/
theorem text_ofJson_eq_iff_alike (value value' : Json) :
    ((ofJson value).text = (ofJson value').text ↔ Alike (ofJson value) (ofJson value')) ∧
      ((ofJson value).text = (ofJson value').text →
        ∀ build, evaluate build (ofJson value) = evaluate build (ofJson value')) := by
  have halike (h : (ofJson value).text = (ofJson value').text) :
      Alike (ofJson value) (ofJson value') :=
    (endsItself (quotesJson_ofJson value) (quotesJson_ofJson value')
      (noneAhead_anywhere []) (noneAhead_anywhere []) (congrArg (·.toList ++ []) h)).1
  exact ⟨⟨halike, Alike.text_eq⟩, fun h build => (halike h).evaluate_eq build⟩

end JdkCatalog.Filter
