import JdkCatalog.Proofs.Entry

/-!
# Which field of an entry is wrong

The entries of a feed have rules for their fields, in a fixed order.  An entry is
refused for the first field that breaks its rule.  This module writes the rules
down apart from the reading, and says that the reading follows them.

* `Field.Rule` is a rule for one field, and `Field.Fault` says what is wrong with
  a field that breaks it.  `Field.FirstFault` is the first fault of a list of
  rules, and `FirstFault.of_alike` says that it does not depend on what no rule
  looks at.
* `Field.Refuses` relates a step of the reading to the rules that it checks.  Each
  kind of field has a lemma (`refuses_text` and its companions), and
  `Field.Refuses.bind` puts steps together as the rules follow each other.
* `Package.rules` and `Product.rules` are the rules of packages and products.
  `refused_for_first_fault` says that these are what an entry is refused for,
  and that what is not refused is read without loss.
-/

namespace JdkCatalog

namespace Field

/-! ## Rules -/

/-- What a field of an entry has to be. -/
inductive Kind where
  | text
  /-- A text out of some. -/
  | tag (tags : List String)
  | natural
  | natural32
  | array
  | texts

/-- The values of a kind, but for which tags there are. -/
def Kind.Admits : Kind → Json → Prop
  | text, value => ∃ s, value = .string s
  | tag _, value => ∃ s, value = .string s
  | natural, value => ∃ n, value = .number (.natural n)
  | natural32, value => ∃ n : UInt32, value = .number (.natural n.toUInt64)
  | array, value => ∃ items, value = .array items
  | texts, value => ∃ ss : List String, value = .array (ss.map .string)

/-- A rule for a field of an entry. -/
structure Rule where
  name : String
  kind : Kind
  /-- The field has to be given. -/
  isRequired : Bool

/-- What is wrong with the field of a rule; `null` counts as not given. -/
inductive Fault (raw : Json) (rule : Rule) : Rejection → Prop where
  | missing (hrequired : rule.isRequired = true) (hpart : raw.part? rule.name = none) :
      Fault raw rule (.missing rule.name)
  | invalid {value : Json} (hpart : raw.part? rule.name = some value)
      (hvalue : ¬ rule.kind.Admits value) :
      Fault raw rule (.invalid rule.name)
  | unknownType {tag : String} {tags : List String} (hkind : rule.kind = .tag tags)
      (hpart : raw.part? rule.name = some (.string tag)) (htag : tag ∉ tags) :
      Fault raw rule (.unknownType tag)

/-- What is wrong with the first field that breaks its rule. -/
inductive FirstFault (raw : Json) : List Rule → Rejection → Prop where
  | here {rule : Rule} {rules : List Rule} {reason : Rejection} (h : Fault raw rule reason) :
      FirstFault raw (rule :: rules) reason
  | later {rule : Rule} {rules : List Rule} {reason : Rejection}
      (hnone : ∀ earlier, ¬ Fault raw rule earlier) (h : FirstFault raw rules reason) :
      FirstFault raw (rule :: rules) reason

/-- An entry that is no object, or whose first fault this is. -/
def Refused (raw : Json) (rules : List Rule) (reason : Rejection) : Prop :=
  ((∀ members, raw ≠ .object members) ∧ reason = .notAnObject) ∨
    ((∃ members, raw = .object members) ∧ FirstFault raw rules reason)

variable {raw : Json} {rule : Rule} {rules rules' : List Rule} {reason : Rejection}

theorem not_firstFault_nil : ¬ FirstFault raw [] reason := by
  intro h
  cases h

theorem firstFault_singleton : FirstFault raw [rule] reason ↔ Fault raw rule reason := by
  constructor
  · intro h
    cases h with
    | here h => exact h
    | later _ h => exact absurd h not_firstFault_nil
  · exact .here

theorem firstFault_append :
    FirstFault raw (rules ++ rules') reason ↔
      FirstFault raw rules reason ∨
        (∀ earlier, ¬ FirstFault raw rules earlier) ∧ FirstFault raw rules' reason := by
  induction rules with
  | nil => simp [not_firstFault_nil]
  | cons rule rules ih =>
    constructor
    · intro h
      cases h with
      | here h => exact .inl (.here h)
      | later hnone h =>
        rcases ih.mp h with h | ⟨hnones, h⟩
        · exact .inl (.later hnone h)
        · refine .inr ⟨fun earlier hearlier => ?_, h⟩
          cases hearlier with
          | here hfault => exact hnone earlier hfault
          | later _ hfault => exact hnones earlier hfault
    · rintro (h | ⟨hnones, h⟩)
      · cases h with
        | here h => exact .here h
        | later hnone h => exact .later hnone (ih.mpr (.inl h))
      · refine .later (fun earlier hfault => hnones earlier (.here hfault)) (ih.mpr (.inr ⟨?_, h⟩))
        intro earlier hfault
        by_cases hrule : ∃ first, Fault raw rule first
        · obtain ⟨first, hfirst⟩ := hrule
          exact hnones first (.here hfirst)
        · exact hnones earlier (.later (not_exists.mp hrule) hfault)

/-- Rules are broken if one of them is. -/
theorem exists_firstFault_iff :
    (∃ reason, FirstFault raw rules reason) ↔ ∃ rule ∈ rules, ∃ reason, Fault raw rule reason := by
  constructor
  · rintro ⟨reason, h⟩
    induction h with
    | here h => exact ⟨_, List.mem_cons_self, _, h⟩
    | later _ _ ih =>
      obtain ⟨rule, hrule, hfault⟩ := ih
      exact ⟨rule, List.mem_cons_of_mem _ hrule, hfault⟩
  · rintro ⟨rule, hrule, hfault⟩
    induction rules with
    | nil => cases hrule
    | cons first rules ih =>
      by_cases hfirst : ∃ reason, Fault raw first reason
      · obtain ⟨reason, hreason⟩ := hfirst
        exact ⟨reason, .here hreason⟩
      · have hnone := not_exists.mp hfirst
        rcases List.mem_cons.mp hrule with rfl | hrule
        · exact absurd hfault hfirst
        · obtain ⟨reason, hreason⟩ := ih hrule
          exact ⟨reason, .later hnone hreason⟩

/-- A rule cannot tell two entries apart: the part is the same, or the rule asks for
an array and both have one. -/
inductive Rule.Alike (rule : Rule) (raw raw' : Json) : Prop where
  | part (h : raw.part? rule.name = raw'.part? rule.name)
  | arrays {elements elements' : List Json} (hkind : rule.kind = .array)
      (h : raw.part? rule.name = some (.array elements))
      (h' : raw'.part? rule.name = some (.array elements'))

theorem Rule.Alike.symm {raw' : Json} (h : rule.Alike raw raw') : rule.Alike raw' raw := by
  cases h with
  | part h => exact .part h.symm
  | arrays hkind h h' => exact .arrays hkind h' h

theorem Fault.of_alike {raw' : Json} (hfault : Fault raw rule reason)
    (halike : rule.Alike raw raw') : Fault raw' rule reason := by
  cases halike with
  | part hpart =>
    cases hfault with
    | missing hrequired hnone => exact .missing hrequired (hpart ▸ hnone)
    | invalid hsome hvalue => exact .invalid (hpart ▸ hsome) hvalue
    | unknownType hkind hsome htag => exact .unknownType hkind (hpart ▸ hsome) htag
  | arrays hkind harray _ =>
    -- An array that is asked for and given is no fault, whatever its elements are.
    cases hfault with
    | missing _ hnone => cases hnone.symm.trans harray
    | invalid hsome hvalue =>
      cases hsome.symm.trans harray
      rw [hkind] at hvalue
      exact absurd ⟨_, rfl⟩ hvalue
    | unknownType _ hsome _ => cases hsome.symm.trans harray

theorem FirstFault.of_alike {raw' : Json} (h : FirstFault raw rules reason)
    (halike : ∀ rule ∈ rules, rule.Alike raw raw') : FirstFault raw' rules reason := by
  induction h with
  | here h => exact .here (h.of_alike (halike _ List.mem_cons_self))
  | later hnone _ ih =>
    obtain ⟨hfirst, hothers⟩ := List.forall_mem_cons.mp halike
    exact .later (fun earlier h => hnone earlier (h.of_alike hfirst.symm)) (ih hothers)

/-! ## Steps of the reading -/

/-- A step of the reading fails exactly for the first fault of some rules. -/
def Refuses (raw : Json) (rules : List Rule) {α : Type} (x : Except Rejection α) : Prop :=
  ∀ reason, x = .error reason ↔ FirstFault raw rules reason

theorem Refuses.pure {α : Type} (a : α) : Refuses raw [] (Pure.pure a) := by
  intro reason
  exact iff_of_false (fun h => by cases h) not_firstFault_nil

/-- What is read after a step has its rules after those of the step. -/
theorem Refuses.bind {α β : Type} {x : Except Rejection α} {f : α → Except Rejection β}
    (hx : Refuses raw rules x) (hf : ∀ a, x = .ok a → Refuses raw rules' (f a)) :
    Refuses raw (rules ++ rules') (x >>= f) := by
  intro reason
  rw [firstFault_append]
  cases x with
  | error first =>
    have hfirst : FirstFault raw rules first := (hx first).mp rfl
    have hstep : Except.error first >>= f = .error reason ↔ first = reason :=
      iff_of_eq (Except.error.injEq first reason)
    rw [hstep]
    constructor
    · rintro rfl
      exact .inl hfirst
    · rintro (h | ⟨hnone, -⟩)
      · exact Except.error.inj ((hx reason).mpr h)
      · exact absurd hfirst (hnone first)
  | ok a =>
    have hnone : ∀ earlier, ¬ FirstFault raw rules earlier := by
      intro earlier h
      cases (hx earlier).mpr h
    have hstep : Except.ok a >>= f = .error reason ↔ FirstFault raw rules' reason := hf a rfl reason
    rw [hstep]
    constructor
    · intro h
      exact .inr ⟨hnone, h⟩
    · rintro (h | ⟨-, h⟩)
      · exact absurd h (hnone reason)
      · exact h

/-! ## A single field -/

variable {members : Members} {name : String} {kind : Kind} {isRequired : Bool} {value : Json}
variable {α : Type}

theorem fault_iff_of_none (hgiven : Json.given? name members = none) :
    Fault (.object members) ⟨name, kind, isRequired⟩ reason ↔
      isRequired = true ∧ reason = .missing name := by
  have hpart : (Json.object members).part? name = none := hgiven
  constructor
  · intro h
    cases h with
    | missing hrequired => exact ⟨hrequired, rfl⟩
    | invalid hsome => cases hpart.symm.trans hsome
    | unknownType _ hsome => cases hpart.symm.trans hsome
  · rintro ⟨hrequired, rfl⟩
    exact .missing hrequired hpart

/-- A field that is given is wrong if its value is of another kind, or a text
that is none of the tags. -/
theorem fault_iff_of_some (hgiven : Json.given? name members = some value) :
    Fault (.object members) ⟨name, kind, isRequired⟩ reason ↔
      (¬ kind.Admits value ∧ reason = .invalid name) ∨
        ∃ tags tag, kind = .tag tags ∧ value = .string tag ∧ tag ∉ tags ∧
          reason = .unknownType tag := by
  have hpart : (Json.object members).part? name = some value := hgiven
  constructor
  · intro h
    cases h with
    | missing _ hnone => cases hpart.symm.trans hnone
    | invalid hsome hvalue =>
      cases hpart.symm.trans hsome
      exact .inl ⟨hvalue, rfl⟩
    | unknownType hkind hsome htag =>
      cases hpart.symm.trans hsome
      exact .inr ⟨_, _, hkind, rfl, htag, rfl⟩
  · rintro (⟨hvalue, rfl⟩ | ⟨tags, tag, hkind, rfl, htag, rfl⟩)
    · exact .invalid hpart hvalue
    · exact .unknownType hkind hpart htag

theorem refuses_missing (hgiven : Json.given? name members = none) :
    Refuses (α := α) (.object members) [⟨name, kind, true⟩] (.error (.missing name)) := by
  intro reason
  rw [firstFault_singleton, fault_iff_of_none hgiven]
  simp [eq_comm]

theorem refuses_absent {a : α} (hgiven : Json.given? name members = none) :
    Refuses (.object members) [⟨name, kind, false⟩] (.ok a) := by
  intro reason
  rw [firstFault_singleton, fault_iff_of_none hgiven]
  simp

theorem refuses_misfit (hgiven : Json.given? name members = some value)
    (hvalue : ¬ kind.Admits value) :
    Refuses (α := α) (.object members) [⟨name, kind, isRequired⟩] (.error (.invalid name)) := by
  intro reason
  rw [firstFault_singleton, fault_iff_of_some hgiven]
  constructor
  · rintro ⟨⟩
    exact .inl ⟨hvalue, rfl⟩
  · rintro (⟨-, rfl⟩ | ⟨tags, tag, rfl, rfl, -, rfl⟩)
    · rfl
    · exact absurd ⟨tag, rfl⟩ hvalue

theorem refuses_fit {a : α} (hgiven : Json.given? name members = some value)
    (hvalue : kind.Admits value)
    (htags : ∀ tags tag, kind = .tag tags → value = .string tag → tag ∈ tags) :
    Refuses (.object members) [⟨name, kind, isRequired⟩] (.ok a) := by
  intro reason
  rw [firstFault_singleton, fault_iff_of_some hgiven]
  refine iff_of_false (fun h => by cases h) ?_
  rintro (⟨hmisfit, -⟩ | ⟨tags, tag, hkind, htag, hunknown, -⟩)
  · exact hmisfit hvalue
  · exact hunknown (htags tags tag hkind htag)

theorem refuses_unknown {tags : List String} {tag : String}
    (hgiven : Json.given? name members = some (.string tag)) (htag : tag ∉ tags) :
    Refuses (α := α) (.object members) [⟨name, .tag tags, isRequired⟩]
      (.error (.unknownType tag)) := by
  intro reason
  rw [firstFault_singleton, fault_iff_of_some hgiven]
  constructor
  · rintro ⟨⟩
    exact .inr ⟨tags, tag, rfl, rfl, htag, rfl⟩
  · rintro (⟨hmisfit, -⟩ | ⟨_, _, ⟨⟩, ⟨⟩, -, rfl⟩)
    · exact absurd ⟨tag, rfl⟩ hmisfit
    · rfl

/-! ## Kinds of fields -/

theorem refuses_text : Refuses (.object members) [⟨name, .text, true⟩] (text members name) := by
  unfold text
  split
  next hgiven => exact refuses_missing hgiven
  next s hgiven => exact refuses_fit hgiven ⟨s, rfl⟩ nofun
  next value hother hgiven => exact refuses_misfit hgiven fun ⟨s, hs⟩ => hother s hs

theorem refuses_text? :
    Refuses (.object members) [⟨name, .text, false⟩] (text? members name) := by
  unfold text?
  split
  next hgiven => exact refuses_absent hgiven
  next s hgiven => exact refuses_fit hgiven ⟨s, rfl⟩ nofun
  next value hother hgiven => exact refuses_misfit hgiven fun ⟨s, hs⟩ => hother s hs

theorem refuses_natural :
    Refuses (.object members) [⟨name, .natural, true⟩] (natural members name) := by
  unfold natural
  split
  next hgiven => exact refuses_missing hgiven
  next value hgiven =>
    split
    next n hn => exact refuses_fit hgiven ⟨n, Json.natural?_eq_some_iff.mp hn⟩ nofun
    next hn =>
      refine refuses_misfit hgiven fun ⟨n, hvalue⟩ => ?_
      rw [Json.natural?_eq_some_iff.mpr hvalue] at hn
      cases hn

/-- A number that does not fit 32 bits is wrong although it is a number. -/
theorem refuses_natural32 :
    Refuses (.object members) [⟨name, .natural32, true⟩] (natural32 members name) := by
  unfold natural32 natural
  split
  next hgiven => exact refuses_missing hgiven
  next value hgiven =>
    split
    next n hn =>
      have hvalue : value = .number (.natural n) := Json.natural?_eq_some_iff.mp hn
      show Refuses _ _ (if n.toNat < UInt32.size then _ else _)
      split
      next hlt =>
        refine refuses_fit hgiven ⟨n.toUInt32, ?_⟩ nofun
        rw [hvalue, toUInt64_toUInt32_of_lt hlt]
      next hlt =>
        refine refuses_misfit hgiven fun ⟨m, hm⟩ => hlt ?_
        rw [hvalue] at hm
        cases hm
        rw [UInt32.toNat_toUInt64]
        exact m.toNat_lt_size
    next hn =>
      refine refuses_misfit hgiven fun ⟨n, hvalue⟩ => ?_
      rw [Json.natural?_eq_some_iff.mpr hvalue] at hn
      cases hn

theorem refuses_array :
    Refuses (.object members) [⟨name, .array, true⟩] (array members name) := by
  unfold array
  split
  next hgiven => exact refuses_missing hgiven
  next items hgiven => exact refuses_fit hgiven ⟨items, rfl⟩ nofun
  next value hother hgiven => exact refuses_misfit hgiven fun ⟨items, hs⟩ => hother items hs

theorem refuses_texts :
    Refuses (.object members) [⟨name, .texts, false⟩] (texts members name) := by
  unfold texts
  split
  next hgiven => exact refuses_absent hgiven
  next items hgiven =>
    split
    next ss hss =>
      obtain rfl : items = ss.map .string := mapM_string?_eq_some_iff.mp hss
      exact refuses_fit hgiven ⟨ss, rfl⟩ nofun
    next hnone =>
      refine refuses_misfit hgiven fun ⟨ss, hss⟩ => ?_
      rw [mapM_string?_eq_some_iff.mpr (Json.array.inj hss)] at hnone
      cases hnone
  next value hother hgiven =>
    exact refuses_misfit hgiven fun ⟨ss, hss⟩ => hother _ hss

/-! ## Entries -/

/-- An entry that is read by its rules if it is an object, and is not read
otherwise, is refused for its first fault. -/
theorem eq_error_iff_refused (read : Json → Except Rejection α)
    (hobject : ∀ members, Refuses (.object members) rules (read (.object members)))
    (hother : ∀ raw, (∀ members, raw ≠ .object members) → read raw = .error .notAnObject)
    (raw : Json) (reason : Rejection) : read raw = .error reason ↔ Refused raw rules reason := by
  unfold Refused
  by_cases h : ∃ members, raw = .object members
  · obtain ⟨members, rfl⟩ := h
    rw [hobject members reason]
    simp
  · have hraw : ∀ members, raw ≠ .object members := not_exists.mp h
    rw [hother raw hraw]
    constructor
    · rintro ⟨⟩
      exact .inl ⟨hraw, rfl⟩
    · rintro (⟨-, rfl⟩ | ⟨hobject, -⟩)
      · rfl
      · exact absurd hobject h

theorem exists_refused_iff :
    (∃ reason, Refused raw rules reason) ↔
      (∀ members, raw ≠ .object members) ∨ ∃ rule ∈ rules, ∃ reason, Fault raw rule reason := by
  constructor
  · rintro ⟨reason, ⟨hraw, -⟩ | ⟨-, h⟩⟩
    · exact .inl hraw
    · exact .inr (exists_firstFault_iff.mp ⟨reason, h⟩)
  · intro h
    by_cases hraw : ∃ members, raw = .object members
    · rcases h with hother | hfault
      · obtain ⟨members, hmembers⟩ := hraw
        exact absurd hmembers (hother members)
      · obtain ⟨reason, hfirst⟩ := exists_firstFault_iff.mpr hfault
        exact ⟨reason, .inr ⟨hraw, hfirst⟩⟩
    · exact ⟨.notAnObject, .inl ⟨not_exists.mp hraw, rfl⟩⟩

/-- Objects that no rule tells apart are refused for the same reasons. -/
theorem refused_iff_of_alike {members members' : Members}
    (halike : ∀ rule ∈ rules, rule.Alike (.object members) (.object members')) :
    Refused (.object members) rules reason ↔ Refused (.object members') rules reason := by
  have hfirst : FirstFault (.object members) rules reason ↔
      FirstFault (.object members') rules reason :=
    ⟨fun h => h.of_alike halike, fun h => h.of_alike fun rule hrule => (halike rule hrule).symm⟩
  simp [Refused, hfirst]

/-- A member under a name that the rules do not have makes no difference. -/
theorem alike_append {name : String} (hname : ∀ rule ∈ rules, rule.name ≠ name) (value : Json)
    (members : Members) :
    ∀ rule ∈ rules, rule.Alike (.object members) (.object (members ++ [(name, value)])) := by
  intro rule hrule
  apply Rule.Alike.part
  have hlookup : (members ++ [(name, value)]).lookup rule.name = members.lookup rule.name := by
    rw [List.lookup_append, List.lookup_cons, beq_false_of_ne (hname rule hrule)]
    simp
  simp only [Json.part?, Json.member?, hlookup]

end Field

/-! ## Packages -/

namespace Package

/-- The rules for the fields of a package, in the order in which they are
checked. -/
def rules : List Field.Rule :=
  [⟨"os", .text, true⟩, ⟨"arch", .text, false⟩, ⟨"package_type", .tag ["zip", "targz"], true⟩,
    ⟨"url", .text, true⟩, ⟨"sha256", .text, true⟩, ⟨"archive_size", .natural, true⟩,
    ⟨"archive_file_name", .text, true⟩, ⟨"unpack_prefix_filter", .text, false⟩,
    ⟨"unpacked_size", .natural, true⟩, ⟨"install_folder_name", .text, true⟩,
    ⟨"package_to_java_home_prefix", .text, false⟩]

theorem name_notMem_unread : ∀ rule ∈ rules, rule.name ∉ ["filter", "default"] := by
  decide

theorem notMem_of_ofTag?_eq_none {tag : String} (hnone : PackageType.ofTag? tag = none) :
    tag ∉ ["zip", "targz"] := by
  unfold PackageType.ofTag? at hnone
  split at hnone
  next => cases hnone
  next hzip =>
    split at hnone
    next => cases hnone
    next htarGz => simp [hzip, htarGz]

theorem refuses_packageType {members : Field.Members} :
    Field.Refuses (.object members) [⟨"package_type", .tag ["zip", "targz"], true⟩]
      (PackageType.read members) := by
  cases hgiven : Json.given? "package_type" members with
  | none =>
    have hread : PackageType.read members = .error (.missing "package_type") := by
      simp only [PackageType.read, Field.text, hgiven, bind, Except.bind]
    rw [hread]
    exact Field.refuses_missing hgiven
  | some value =>
    by_cases hvalue : ∃ tag, value = .string tag
    · obtain ⟨tag, rfl⟩ := hvalue
      cases htype : PackageType.ofTag? tag with
      | some packageType =>
        obtain rfl : tag = packageType.tag := PackageType.ofTag?_eq_some_iff.mp htype
        rw [PackageType.read_eq_ok_iff.mpr hgiven]
        refine Field.refuses_fit hgiven ⟨_, rfl⟩ ?_
        rintro _ _ ⟨⟩ ⟨⟩
        cases packageType <;> decide
      | none =>
        have hread : PackageType.read members = .error (.unknownType tag) := by
          simp only [PackageType.read, Field.text, hgiven, bind, Except.bind, htype]
          rfl
        rw [hread]
        exact Field.refuses_unknown hgiven (notMem_of_ofTag?_eq_none htype)
    · have hread : PackageType.read members = .error (.invalid "package_type") := by
        unfold PackageType.read Field.text
        rw [hgiven]
        cases value with
        | string tag => exact absurd ⟨tag, rfl⟩ hvalue
        | _ => rfl
      rw [hread]
      exact Field.refuses_misfit hgiven hvalue

/-- A package is read field by field as its rules follow each other. -/
theorem refuses_read (members : Field.Members) :
    Field.Refuses (.object members) rules (read (.object members)) :=
  Field.refuses_text.bind fun _ _ =>
  Field.refuses_text?.bind fun _ _ =>
  refuses_packageType.bind fun _ _ =>
  Field.refuses_text.bind fun _ _ =>
  Field.refuses_text.bind fun _ _ =>
  Field.refuses_natural.bind fun _ _ =>
  Field.refuses_text.bind fun _ _ =>
  Field.refuses_text?.bind fun _ _ =>
  Field.refuses_natural.bind fun _ _ =>
  Field.refuses_text.bind fun _ _ =>
  Field.refuses_text?.bind fun _ _ => .pure _

theorem read_eq_error_iff (raw : Json) (reason : Rejection) :
    read raw = .error reason ↔ Field.Refused raw rules reason := by
  refine Field.eq_error_iff_refused read refuses_read (fun raw hraw => ?_) raw reason
  cases raw with
  | object members => exact absurd rfl (hraw members)
  | _ => rfl

end Package

/-! ## Products -/

namespace Product

/-- The rules for the fields of a product, in the order in which they are
checked. -/
def rules : List Field.Rule :=
  [⟨"vendor", .text, true⟩, ⟨"jdk_version_major", .natural32, true⟩,
    ⟨"jdk_version", .text, true⟩, ⟨"suggested_sdk_name", .text, true⟩,
    ⟨"packages", .array, true⟩, ⟨"product", .text, false⟩, ⟨"flavour", .text, false⟩,
    ⟨"jdk_vendor_version", .text, false⟩, ⟨"vendor_version", .text, false⟩,
    ⟨"shared_index_aliases", .texts, false⟩]

theorem name_notMem_unread : ∀ rule ∈ rules, rule.name ∉ ["filter", "default"] := by
  decide

/-- The packages are read between the two parts of a product, and cannot fail. -/
theorem value_read (raw : Json) :
    (read raw).value =
      readHead raw >>= fun head => head.complete (head.rawPackages.filterMap Package.read?) := by
  unfold read
  cases readHead raw with
  | error reason => rfl
  | ok head =>
    show head.complete (readPackages head.vendor head.jdkVersion 0 head.rawPackages).value = _
    rw [value_readPackages]
    rfl

theorem refuses_readHead (members : Field.Members) :
    Field.Refuses (.object members) (rules.take 5) (readHead (.object members)) :=
  Field.refuses_text.bind fun _ _ =>
  Field.refuses_natural32.bind fun _ _ =>
  Field.refuses_text.bind fun _ _ =>
  Field.refuses_text.bind fun _ _ =>
  Field.refuses_array.bind fun _ _ => .pure _

theorem refuses_complete (head : Head) (packages : List Package) :
    Field.Refuses (.object head.members) (rules.drop 5) (head.complete packages) :=
  Field.refuses_text?.bind fun _ _ =>
  Field.refuses_text?.bind fun _ _ =>
  Field.refuses_text?.bind fun _ _ =>
  Field.refuses_text?.bind fun _ _ =>
  Field.refuses_texts.bind fun _ _ => .pure _

theorem refuses_read (members : Field.Members) :
    Field.Refuses (.object members) rules (read (.object members)).value := by
  rw [value_read, ← List.take_append_drop 5 rules]
  refine (refuses_readHead members).bind fun head hhead => ?_
  have hmembers : Json.object members = .object head.members := (readHead_eq_ok_iff.mp hhead).1
  rw [hmembers]
  exact refuses_complete head _

theorem read_eq_error_iff (raw : Json) (reason : Rejection) :
    (read raw).value = .error reason ↔ Field.Refused raw rules reason := by
  refine Field.eq_error_iff_refused (fun raw => (read raw).value) refuses_read (fun raw hraw => ?_)
    raw reason
  cases raw with
  | object members => exact absurd rfl (hraw members)
  | _ => rfl

end Product

/-- Products and packages are refused for being no object or for the first field
that breaks its rule, and for nothing else: not for a member without a rule, as
`filter` and `default` are, and not for anything in an element of the packages.
What is read has every field as it was written. -/
theorem refused_for_first_fault (raw : Json) :
    (∀ reason, (Product.read raw).value = .error reason ↔
      Field.Refused raw Product.rules reason) ∧
    (∀ reason, Package.read raw = .error reason ↔ Field.Refused raw Package.rules reason) ∧
    ((∃ reason, (Product.read raw).value = .error reason) ↔
      (∀ members, raw ≠ .object members) ∨
        ∃ rule ∈ Product.rules, ∃ reason, Field.Fault raw rule reason) ∧
    ((∃ reason, Package.read raw = .error reason) ↔
      (∀ members, raw ≠ .object members) ∨
        ∃ rule ∈ Package.rules, ∃ reason, Field.Fault raw rule reason) ∧
    (∀ members members', raw = .object members →
      (∀ rule ∈ Product.rules, rule.Alike raw (.object members')) → ∀ reason,
        (Product.read raw).value = .error reason ↔
          (Product.read (.object members')).value = .error reason) ∧
    (∀ members name value, raw = .object members → name ∈ ["filter", "default"] → ∀ reason,
      ((Product.read (.object (members ++ [(name, value)]))).value = .error reason ↔
        (Product.read raw).value = .error reason) ∧
      (Package.read (.object (members ++ [(name, value)])) = .error reason ↔
        Package.read raw = .error reason)) ∧
    (∀ p, (Product.read raw).value = .ok p ↔ p.StatedBy raw) ∧
    (∀ package, Package.read raw = .ok package ↔ package.StatedBy raw) := by
  refine ⟨Product.read_eq_error_iff raw, Package.read_eq_error_iff raw, ?product, ?package,
    ?alike, ?unread, fun p => Product.read_eq_ok_iff, fun package => Package.read_eq_ok_iff⟩
  case product =>
    simp only [Product.read_eq_error_iff]
    exact Field.exists_refused_iff
  case package =>
    simp only [Package.read_eq_error_iff]
    exact Field.exists_refused_iff
  case alike =>
    rintro members members' rfl halike reason
    rw [Product.read_eq_error_iff, Product.read_eq_error_iff]
    exact Field.refused_iff_of_alike halike
  case unread =>
    rintro members name value rfl hname reason
    have hproduct : ∀ rule ∈ Product.rules, rule.name ≠ name :=
      fun rule hrule heq => Product.name_notMem_unread rule hrule (heq ▸ hname)
    have hpackage : ∀ rule ∈ Package.rules, rule.name ≠ name :=
      fun rule hrule heq => Package.name_notMem_unread rule hrule (heq ▸ hname)
    simp only [Product.read_eq_error_iff, Package.read_eq_error_iff]
    exact ⟨(Field.refused_iff_of_alike (Field.alike_append hproduct value members)).symm,
      (Field.refused_iff_of_alike (Field.alike_append hpackage value members)).symm⟩

/-- Of a product with three fields that are wrong, the one that is checked first
is named. -/
theorem refused_for_major_version_first :
    (Product.read (.object
      [("jdk_version", .null), ("jdk_version_major", .number (.natural 4294967296)),
        ("product", .bool true), ("vendor", .string "v")])).value =
      .error (.invalid "jdk_version_major") := by
  refine ((refused_for_first_fault _).1 _).mpr (.inr ⟨⟨_, rfl⟩, ?_⟩)
  refine .later (fun earlier h => ?_) (.here (.invalid rfl ?_))
  · have hvendor := (Field.fault_iff_of_some rfl).mp h
    rcases hvendor with ⟨hmisfit, -⟩ | ⟨_, _, hkind, -⟩
    · exact hmisfit ⟨"v", rfl⟩
    · cases hkind
  · rintro ⟨n, hn⟩
    have hvalue : (4294967296 : UInt64) = n.toUInt64 :=
      Json.Numeral.natural.inj (Json.number.inj hn)
    have htoNat : 4294967296 = n.toNat := by
      rw [← UInt32.toNat_toUInt64, ← hvalue]
      rfl
    exact absurd htoNat.symm (Nat.ne_of_lt n.toNat_lt)

end JdkCatalog
