import JdkCatalog.Platform.Json
import JdkCatalog.Proofs.Config.Reading
import JdkCatalog.Proofs.Item.Order
import JdkCatalog.Proofs.Json.Text
import JdkCatalog.Proofs.Selection.Outcome
import JdkCatalog.Proofs.Selection.Report
import JdkCatalog.Proofs.Text.Letters

/-!
# Which tags mean the same

Tags of systems and architectures are read up to the case of ASCII letters and up
to some aliases.  What is read is in a normal form: no alias and no letter in upper
case is kept, so that things that are named alike are equal.

* `SameTag` says of two tags that they mean the same.
* `Vocabulary` is what systems and architectures have in common: some of them are
  known, each by some names, and any other is its own tag.  The laws of tags are
  proved for every vocabulary: `Vocabulary.ofTag_eq_iff`, `Vocabulary.ofTag_tag`
  and `Vocabulary.ofTag_eq_other_iff`.
* `Os.Produced` and `Arch.Produced` list the ways on which a system or an
  architecture comes into being; `Os.produced_iff` says that all of them end in a
  tag that is read.
* `Package.IsConsidered` says that a package plays a part in a choice.
-/

namespace JdkCatalog

/-- Two tags are the same up to case, or both are found in one list of aliases. -/
def SameTag (aliases : List (List String)) (a b : String) : Prop :=
  a.map Char.toLower = b.map Char.toLower ∨
    ∃ names ∈ aliases, a.map Char.toLower ∈ names ∧ b.map Char.toLower ∈ names

/-- A list of one name adds nothing to the case of letters. -/
theorem sameTag_singleton_cons {name : String} {aliases : List (List String)} {a b : String} :
    SameTag ([name] :: aliases) a b ↔ SameTag aliases a b := by
  unfold SameTag
  constructor
  · rintro (h | ⟨names, hnames, ha, hb⟩)
    · exact .inl h
    · rcases List.mem_cons.mp hnames with rfl | hnames
      · exact .inl ((List.mem_singleton.mp ha).trans (List.mem_singleton.mp hb).symm)
      · exact .inr ⟨names, hnames, ha, hb⟩
  · rintro (h | ⟨names, hnames, ha, hb⟩)
    · exact .inl h
    · exact .inr ⟨names, List.mem_cons_of_mem _ hnames, ha, hb⟩

/-! ## Vocabularies -/

/-- Things that have tags.  Some are known, each by its names in lower case, and
any other is its own tag. -/
structure Vocabulary (τ : Type) where
  ofTag : String → τ
  tag : τ → String
  other : String → τ
  /-- What is known, with its names. -/
  known : List (τ × List String)
  ofTag_of_mem : ∀ entry ∈ known, ∀ s : String, s.map Char.toLower ∈ entry.2 → ofTag s = entry.1
  ofTag_of_notMem : ∀ s : String, (∀ entry ∈ known, s.map Char.toLower ∉ entry.2) →
    ofTag s = other (s.map Char.toLower)
  /-- The tag of what is known is one of its names. -/
  tag_mem : ∀ entry ∈ known, (tag entry.1).map Char.toLower ∈ entry.2
  tag_other : ∀ s, tag (other s) = s
  ne_other : ∀ entry ∈ known, ∀ s, entry.1 ≠ other s
  names_eq : ∀ entry ∈ known, ∀ entry' ∈ known, entry.1 = entry'.1 → entry.2 = entry'.2

namespace Vocabulary

variable {τ : Type} (V : Vocabulary τ)

/-- The lists of names of what is known. -/
def aliases : List (List String) :=
  V.known.map Prod.snd

/-- The names of what is known. -/
def names : List String :=
  V.aliases.flatten

theorem ofTag_cases (s : String) :
    (∃ entry ∈ V.known, s.map Char.toLower ∈ entry.2 ∧ V.ofTag s = entry.1) ∨
      (∀ entry ∈ V.known, s.map Char.toLower ∉ entry.2) ∧
        V.ofTag s = V.other (s.map Char.toLower) := by
  by_cases h : ∃ entry ∈ V.known, s.map Char.toLower ∈ entry.2
  · obtain ⟨entry, hentry, hname⟩ := h
    exact .inl ⟨entry, hentry, hname, V.ofTag_of_mem entry hentry s hname⟩
  · have hnone : ∀ entry ∈ V.known, s.map Char.toLower ∉ entry.2 :=
      fun entry hentry hname => h ⟨entry, hentry, hname⟩
    exact .inr ⟨hnone, V.ofTag_of_notMem s hnone⟩

/-- Reading a tag does not look at the case of letters. -/
theorem ofTag_eq_of_map_toLower_eq {a b : String} (h : a.map Char.toLower = b.map Char.toLower) :
    V.ofTag a = V.ofTag b := by
  rcases V.ofTag_cases b with ⟨entry, hentry, hname, hb⟩ | ⟨hnone, hb⟩
  · rw [hb]
    exact V.ofTag_of_mem entry hentry a (h ▸ hname)
  · rw [hb, ← h]
    exact V.ofTag_of_notMem a (h ▸ hnone)

/-- What two tags stand for is the same exactly if they mean the same. -/
theorem ofTag_eq_iff {a b : String} : V.ofTag a = V.ofTag b ↔ SameTag V.aliases a b := by
  constructor
  · intro h
    rcases V.ofTag_cases a with ⟨entry, hentry, hname, ha⟩ | ⟨-, ha⟩ <;>
      rcases V.ofTag_cases b with ⟨entry', hentry', hname', hb⟩ | ⟨-, hb⟩ <;>
      rw [ha, hb] at h
    · refine .inr ⟨entry.2, List.mem_map_of_mem hentry, hname, ?_⟩
      rw [V.names_eq entry hentry entry' hentry' h]
      exact hname'
    · exact absurd h (V.ne_other entry hentry _)
    · exact absurd h.symm (V.ne_other entry' hentry' _)
    · have htag := congrArg V.tag h
      rw [V.tag_other, V.tag_other] at htag
      exact .inl htag
  · rintro (h | ⟨names, hnames, ha, hb⟩)
    · exact V.ofTag_eq_of_map_toLower_eq h
    · obtain ⟨entry, hentry, rfl⟩ := List.mem_map.mp hnames
      rw [V.ofTag_of_mem entry hentry a ha, V.ofTag_of_mem entry hentry b hb]

/-- The tag of what was read from a tag means the same as that tag. -/
theorem ofTag_tag (s : String) : V.ofTag (V.tag (V.ofTag s)) = V.ofTag s := by
  rcases V.ofTag_cases s with ⟨entry, hentry, -, hs⟩ | ⟨-, hs⟩
  · rw [hs]
    exact V.ofTag_of_mem entry hentry _ (V.tag_mem entry hentry)
  · rw [hs, V.tag_other, ← hs]
    exact V.ofTag_eq_of_map_toLower_eq (Text.map_toLower_idem s)

theorem tag_ofTag_inj {a b : String} :
    V.tag (V.ofTag a) = V.tag (V.ofTag b) ↔ V.ofTag a = V.ofTag b := by
  constructor
  · intro h
    rw [← V.ofTag_tag a, h, V.ofTag_tag b]
  · exact congrArg V.tag

/-- What is kept of an unknown tag is in lower case and no name of anything
known. -/
theorem ofTag_eq_other_iff {w : String} :
    (∃ s, V.ofTag s = V.other w) ↔ (∀ c ∈ w.toList, c.isUpper = false) ∧ w ∉ V.names := by
  have hnames : w ∉ V.names ↔ ∀ entry ∈ V.known, w ∉ entry.2 := by
    simp only [names, List.mem_flatten, not_exists, not_and]
    exact List.forall_mem_map
  rw [← Text.map_toLower_eq_self_iff, hnames]
  constructor
  · rintro ⟨s, hs⟩
    rcases V.ofTag_cases s with ⟨entry, hentry, -, hknown⟩ | ⟨hnone, hother⟩
    · exact absurd (hknown.symm.trans hs) (V.ne_other entry hentry w)
    · have hw : s.map Char.toLower = w := by
        rw [← V.tag_other (s.map Char.toLower), ← hother, hs, V.tag_other]
      subst hw
      exact ⟨Text.map_toLower_idem s, hnone⟩
  · rintro ⟨hlower, hnone⟩
    refine ⟨w, ?_⟩
    rw [V.ofTag_of_notMem w (hlower.symm ▸ hnone), hlower]

end Vocabulary

/-! ## Systems and architectures -/

namespace Os

/-- The names that mean one system although they are different texts. -/
def aliases : List (List String) :=
  [["macos", "mac", "darwin"]]

/-- The names of systems. -/
def vocabulary : Vocabulary Os where
  ofTag := ofTag
  tag := tag
  other := other
  known := [(linux, ["linux"]), (windows, ["windows"]), (macOs, ["macos", "mac", "darwin"])]
  ofTag_of_mem entry hentry s hname := by
    simp only [List.mem_cons, List.not_mem_nil, or_false] at hentry
    rcases hentry with rfl | rfl | rfl <;>
      simp only [List.mem_cons, List.not_mem_nil, or_false] at hname
    · simp [ofTag, hname]
    · simp [ofTag, hname]
    · rcases hname with hname | hname | hname <;> simp [ofTag, hname]
  ofTag_of_notMem s hnone := by
    have hlinux := hnone (linux, ["linux"]) (by simp)
    have hmacOs := hnone (macOs, ["macos", "mac", "darwin"]) (by simp)
    have hwindows := hnone (windows, ["windows"]) (by simp)
    simp only [List.mem_cons, List.not_mem_nil, or_false] at hlinux hmacOs hwindows
    rw [ofTag, if_neg hlinux, if_neg hmacOs, if_neg hwindows]
  tag_mem := by decide +kernel
  tag_other _ := rfl
  ne_other := by simp
  names_eq := by decide

theorem ofTag_eq_ofTag_iff {a b : String} :
    ofTag a = ofTag b ↔ SameTag aliases a b := by
  have h : ofTag a = ofTag b ↔ SameTag vocabulary.aliases a b := vocabulary.ofTag_eq_iff
  rw [h]
  show SameTag (["linux"] :: ["windows"] :: _) a b ↔ _
  rw [sameTag_singleton_cons, sameTag_singleton_cons]
  rfl

example : ofTag "Darwin" = ofTag "macOS" ∧ ofTag "Darwin" ≠ ofTag "Darwin64" := by
  decide +kernel

end Os

namespace Arch

/-- The names that mean one architecture although they are different texts. -/
def aliases : List (List String) :=
  [["x86_64", "amd64", "x64"], ["aarch64", "arm64"]]

/-- The names of architectures. -/
def vocabulary : Vocabulary Arch where
  ofTag := ofTag
  tag := tag
  other := other
  known := [(x86_64, ["x86_64", "amd64", "x64"]), (aarch64, ["aarch64", "arm64"])]
  ofTag_of_mem entry hentry s hname := by
    simp only [List.mem_cons, List.not_mem_nil, or_false] at hentry
    rcases hentry with rfl | rfl <;>
      simp only [List.mem_cons, List.not_mem_nil, or_false] at hname
    · rcases hname with hname | hname | hname <;> simp [ofTag, hname]
    · rcases hname with hname | hname <;> simp [ofTag, hname]
  ofTag_of_notMem s hnone := by
    have hx86 := hnone (x86_64, ["x86_64", "amd64", "x64"]) (by simp)
    have harm := hnone (aarch64, ["aarch64", "arm64"]) (by simp)
    simp only [List.mem_cons, List.not_mem_nil, or_false] at hx86 harm
    rw [ofTag, if_neg hx86, if_neg harm]
  tag_mem := by decide +kernel
  tag_other _ := rfl
  ne_other := by simp
  names_eq := by decide

theorem ofTag_eq_ofTag_iff {a b : String} : ofTag a = ofTag b ↔ SameTag aliases a b :=
  vocabulary.ofTag_eq_iff

end Arch

/-! ## What is produced -/

theorem Json.readString?_stringText (s : String) :
    readString? (Text.utf8 (stringText s)) = some s := by
  rw [readString?, read_stringText]
  rfl

/-- An item of a feed is for the platform that an element of the packages names. -/
theorem Document.exists_suits_of_mem_items {document : Document} {ctx : Context} {item : Item}
    (h : item ∈ document.items ctx) :
    ∃ raw chosen, Selection.Suits ctx chosen ∧ item.StatedBy ctx raw chosen := by
  unfold items at h
  rw [items_report, List.mem_filterMap] at h
  obtain ⟨selection, hselection, hitem⟩ := h
  obtain ⟨raw, -, hraw⟩ := List.mem_map.mp hselection
  have houtcome := Selection.outcome_ofJson ctx raw
  rw [hraw] at houtcome
  cases houtcome with
  | kept hread hfilter hpackages hbefore hchosen hstated =>
    cases hitem
    exact ⟨raw, _, hchosen, hstated⟩
  | _ => cases hitem

namespace Os

/-- A system that comes from a tag, from JSON, from a package of a feed, from a
configuration on a machine whose system comes from one of these, or from a
selection. -/
inductive Produced : Os → Prop where
  | tag (s : String) : Produced (ofTag s)
  | json {bytes : List UInt8} {os : Os} (h : ofJsonText? bytes = some os) : Produced os
  | package {raw : Json} {package : Package} (h : Package.read raw = .ok package) :
      Produced package.os
  | config {host : Host} {text : String} {config : Config} (hhost : Produced host.os)
      (h : Config.ofToml host text = .ok config) : Produced config.os
  | item {document : Document} {ctx : Context} {item : Item} (h : item ∈ document.items ctx) :
      Produced item.os

/-- Whatever is produced was read from a tag. -/
theorem Produced.exists_ofTag {os : Os} (h : os.Produced) : ∃ s, ofTag s = os := by
  induction h with
  | tag s => exact ⟨s, rfl⟩
  | json h =>
    obtain ⟨s, -, hs⟩ := Option.map_eq_some_iff.mp h
    exact ⟨s, hs⟩
  | package h =>
    obtain ⟨s, -, hs⟩ := stated?_eq_some_iff.mp (Package.read_eq_ok_iff.mp h).os
    exact ⟨s, hs⟩
  | config _ h ih =>
    obtain ⟨entries, -, hstated⟩ := Config.exists_statedBy_of_ofToml h
    exact hstated.os.exists_read ih
  | item h =>
    obtain ⟨raw, chosen, hchosen, hitem⟩ := Document.exists_suits_of_mem_items h
    obtain ⟨s, -, hs⟩ := stated?_eq_some_iff.mp hchosen.os
    exact ⟨s, hs.trans hitem.os.symm⟩

theorem ofTag_tag {os : Os} (h : os.Produced) : ofTag os.tag = os := by
  obtain ⟨s, rfl⟩ := h.exists_ofTag
  exact vocabulary.ofTag_tag s

theorem ofJsonText?_jsonText {os : Os} (h : os.Produced) :
    ofJsonText? (Text.utf8 os.jsonText) = some os := by
  rw [ofJsonText?, jsonText, Json.readString?_stringText, Option.map_some, ofTag_tag h]

theorem tag_inj {os os' : Os} (h : os.Produced) (h' : os'.Produced) :
    os.tag = os'.tag ↔ os = os' := by
  obtain ⟨s, rfl⟩ := h.exists_ofTag
  obtain ⟨s', rfl⟩ := h'.exists_ofTag
  exact vocabulary.tag_ofTag_inj

theorem produced_other_iff {w : String} :
    (other w).Produced ↔ (∀ c ∈ w.toList, c.isUpper = false) ∧
      w ∉ ["linux", "windows", "macos", "mac", "darwin"] := by
  constructor
  · intro h
    exact vocabulary.ofTag_eq_other_iff.mp h.exists_ofTag
  · intro h
    obtain ⟨s, hs⟩ := vocabulary.ofTag_eq_other_iff.mpr h
    have hother : ofTag s = other w := hs
    exact hother ▸ .tag s

end Os

namespace Arch

/-- An architecture that comes from a tag, from JSON, from a package of a feed, from a
configuration on a machine whose architecture comes from one of these, or from a
selection. -/
inductive Produced : Arch → Prop where
  | tag (s : String) : Produced (ofTag s)
  | json {bytes : List UInt8} {arch : Arch} (h : ofJsonText? bytes = some arch) : Produced arch
  | package {raw : Json} {package : Package} (h : Package.read raw = .ok package) :
      Produced package.arch
  | config {host : Host} {text : String} {config : Config} (hhost : Produced host.arch)
      (h : Config.ofToml host text = .ok config) : Produced config.arch
  | item {document : Document} {ctx : Context} {item : Item} (h : item ∈ document.items ctx) :
      Produced item.arch

/-- What a package says about its architecture is a tag, also where it says nothing. -/
theorem exists_ofTag_of_stated? {raw : Json} {arch : Arch} (h : stated? raw = some arch) :
    ∃ s, (raw.part? "arch").getD (.string "x86_64") = .string s ∧ ofTag s = arch := by
  have hdefault : ofTag "x86_64" = x86_64 := by decide +kernel
  obtain ⟨tag?, hpart, rfl⟩ := stated?_eq_some_iff.mp h
  rw [hpart]
  cases tag? with
  | none => exact ⟨"x86_64", rfl, hdefault⟩
  | some s => exact ⟨s, rfl, rfl⟩

/-- Whatever is produced was read from a tag. -/
theorem Produced.exists_ofTag {arch : Arch} (h : arch.Produced) : ∃ s, ofTag s = arch := by
  induction h with
  | tag s => exact ⟨s, rfl⟩
  | json h =>
    obtain ⟨s, -, hs⟩ := Option.map_eq_some_iff.mp h
    exact ⟨s, hs⟩
  | package h =>
    obtain ⟨s, -, hs⟩ := exists_ofTag_of_stated? (Package.read_eq_ok_iff.mp h).arch
    exact ⟨s, hs⟩
  | config _ h ih =>
    obtain ⟨entries, -, hstated⟩ := Config.exists_statedBy_of_ofToml h
    exact hstated.arch.exists_read ih
  | item h =>
    obtain ⟨raw, chosen, hchosen, hitem⟩ := Document.exists_suits_of_mem_items h
    obtain ⟨s, -, hs⟩ := exists_ofTag_of_stated? hchosen.arch
    exact ⟨s, hs.trans hitem.arch.symm⟩

theorem ofTag_tag {arch : Arch} (h : arch.Produced) : ofTag arch.tag = arch := by
  obtain ⟨s, rfl⟩ := h.exists_ofTag
  exact vocabulary.ofTag_tag s

theorem ofJsonText?_jsonText {arch : Arch} (h : arch.Produced) :
    ofJsonText? (Text.utf8 arch.jsonText) = some arch := by
  rw [ofJsonText?, jsonText, Json.readString?_stringText, Option.map_some, ofTag_tag h]

theorem tag_inj {arch arch' : Arch} (h : arch.Produced) (h' : arch'.Produced) :
    arch.tag = arch'.tag ↔ arch = arch' := by
  obtain ⟨s, rfl⟩ := h.exists_ofTag
  obtain ⟨s', rfl⟩ := h'.exists_ofTag
  exact vocabulary.tag_ofTag_inj

theorem produced_other_iff {w : String} :
    (other w).Produced ↔ (∀ c ∈ w.toList, c.isUpper = false) ∧
      w ∉ ["x86_64", "amd64", "x64", "aarch64", "arm64"] := by
  constructor
  · intro h
    exact vocabulary.ofTag_eq_other_iff.mp h.exists_ofTag
  · intro h
    obtain ⟨s, hs⟩ := vocabulary.ofTag_eq_other_iff.mpr h
    have hother : ofTag s = other w := hs
    exact hother ▸ .tag s

end Arch

/-! ## Listings -/

namespace Item

/-- The key of listings for the architecture is a text, and yet items tie in it exactly
if the architectures are equal. -/
theorem order_eq_eq_iff_of_produced {x y : Item} (hx : x.arch.Produced) (hy : y.arch.Produced) :
    order x y = .eq ↔ order x { y with arch := x.arch } = .eq ∧ x.arch = y.arch := by
  rw [order_eq_eq_iff, order_eq_eq_iff, ← Arch.tag_inj hx hy]
  constructor
  · intro h
    exact ⟨{ h with archTag := rfl }, h.archTag⟩
  · rintro ⟨h, htag⟩
    exact { h with archTag := htag }

end Item

/-! ## Packages that are considered -/

namespace Package

variable {ctx : Context} {package : Package}

/-- A package plays a part in a choice: it is taken, or it is reported that its filter
does not hold. -/
def IsConsidered (ctx : Context) (package : Package) : Prop :=
  Product.firstFitting ctx [package] ≠ pure none

theorem isConsidered_iff :
    package.IsConsidered ctx ↔ package.os = ctx.os ∧ package.arch = ctx.arch := by
  unfold IsConsidered Product.firstFitting
  by_cases hplatform : package.os = ctx.os ∧ package.arch = ctx.arch
  · rw [if_pos hplatform]
    refine iff_of_true ?_ hplatform
    split
    · intro h
      cases congrArg Logged.value h
    · intro h
      cases congrArg Logged.events h
  · rw [if_neg hplatform]
    exact iff_of_false (fun h => h rfl) hplatform

/-- A package that is not considered makes no difference, wherever it stands. -/
theorem firstFitting_insert (h : ¬ package.IsConsidered ctx) (before after : List Package) :
    Product.firstFitting ctx (before ++ package :: after) =
      Product.firstFitting ctx (before ++ after) := by
  rw [isConsidered_iff] at h
  induction before with
  | nil =>
    show Product.firstFitting ctx (package :: after) = _
    rw [Product.firstFitting, if_neg h]
    rfl
  | cons first before ih =>
    simp only [List.cons_append, Product.firstFitting, ih]

/-- The package that a value states is considered exactly if the tags in the value mean
the same as those that the platform was made of. -/
theorem exists_isConsidered_iff {raw : Json} (hread : read raw = .ok package) :
    ∃ os arch, raw.part? "os" = some (.string os) ∧
      (raw.part? "arch").getD (.string "x86_64") = .string arch ∧
      ∀ build o a, package.IsConsidered ⟨build, Os.ofTag o, Arch.ofTag a⟩ ↔
        SameTag Os.aliases os o ∧ SameTag Arch.aliases arch a := by
  have hstated := read_eq_ok_iff.mp hread
  obtain ⟨os, hos, hpackageOs⟩ := Os.stated?_eq_some_iff.mp hstated.os
  obtain ⟨arch, harch, hpackageArch⟩ := Arch.exists_ofTag_of_stated? hstated.arch
  refine ⟨os, arch, hos, harch, fun build o a => ?_⟩
  rw [isConsidered_iff, ← hpackageOs, ← hpackageArch, Os.ofTag_eq_ofTag_iff,
    Arch.ofTag_eq_ofTag_iff]

end Package

/-! ## The result -/

/-- Tags are read as the same system or architecture exactly if they mean the same.  What
is read, by whatever way, is in a normal form: its tag and its JSON text read back as it
is, unknown tags are in lower case and no names of anything known, and different tags are
of different things, so that listings may compare them.  A package is considered exactly
if its tags mean the same as those of the platform. -/
theorem tags_up_to_case_and_aliases :
    (∀ a b, Os.ofTag a = Os.ofTag b ↔ SameTag [["macos", "mac", "darwin"]] a b) ∧
    (∀ a b, Arch.ofTag a = Arch.ofTag b ↔
      SameTag [["x86_64", "amd64", "x64"], ["aarch64", "arm64"]] a b) ∧
    (∀ os : Os, os.Produced → Os.ofTag os.tag = os ∧
      Os.ofJsonText? (Text.utf8 os.jsonText) = some os ∧
      ∀ os' : Os, os'.Produced → (os.tag = os'.tag ↔ os = os')) ∧
    (∀ arch : Arch, arch.Produced → Arch.ofTag arch.tag = arch ∧
      Arch.ofJsonText? (Text.utf8 arch.jsonText) = some arch ∧
      ∀ arch' : Arch, arch'.Produced → (arch.tag = arch'.tag ↔ arch = arch')) ∧
    (∀ w, (Os.other w).Produced ↔ (∀ c ∈ w.toList, c.isUpper = false) ∧
      w ∉ ["linux", "windows", "macos", "mac", "darwin"]) ∧
    (∀ w, (Arch.other w).Produced ↔ (∀ c ∈ w.toList, c.isUpper = false) ∧
      w ∉ ["x86_64", "amd64", "x64", "aarch64", "arm64"]) ∧
    (∀ x y : Item, x.arch.Produced → y.arch.Produced →
      (Item.order x y = .eq ↔ Item.order x { y with arch := x.arch } = .eq ∧ x.arch = y.arch)) ∧
    (∀ raw package, Package.read raw = .ok package → ∃ os arch,
      raw.part? "os" = some (.string os) ∧
      (raw.part? "arch").getD (.string "x86_64") = .string arch ∧
      ∀ build o a, package.IsConsidered ⟨build, Os.ofTag o, Arch.ofTag a⟩ ↔
        SameTag Os.aliases os o ∧ SameTag Arch.aliases arch a) ∧
    (∀ (ctx : Context) (package : Package) before after, ¬ package.IsConsidered ctx →
      Product.firstFitting ctx (before ++ package :: after) =
        Product.firstFitting ctx (before ++ after)) :=
  ⟨fun _ _ => Os.ofTag_eq_ofTag_iff, fun _ _ => Arch.ofTag_eq_ofTag_iff,
    fun _ h => ⟨Os.ofTag_tag h, Os.ofJsonText?_jsonText h, fun _ => Os.tag_inj h⟩,
    fun _ h => ⟨Arch.ofTag_tag h, Arch.ofJsonText?_jsonText h, fun _ => Arch.tag_inj h⟩,
    fun _ => Os.produced_other_iff, fun _ => Arch.produced_other_iff,
    fun _ _ => Item.order_eq_eq_iff_of_produced, fun _ _ => Package.exists_isConsidered_iff,
    fun _ _ before after h => Package.firstFitting_insert h before after⟩

/-- A package for the Mac, by names that are not the tags of its platform. -/
def macPackage : Json :=
  .object [("os", .string "Darwin"), ("arch", .string "ARM64"), ("package_type", .string "zip"),
    ("url", .string "u"), ("sha256", .string "s"), ("archive_size", .number (.natural 1)),
    ("archive_file_name", .string "a"), ("unpacked_size", .number (.natural 2)),
    ("install_folder_name", .string "i")]

/-- A context for the platform that two tags stand for. -/
def contextOn (os arch : String) : Context :=
  ⟨⟨none, [241], List.cons_ne_nil _ _⟩, Os.ofTag os, Arch.ofTag arch⟩

/-- The package is considered on the platform that yet other names stand for, and is as
good as absent on Linux.  Listings tell its architecture from one that is not known. -/
theorem macPackage_considered_by_other_names :
    ∃ package, Package.read macPackage = .ok package ∧
      package.os.Produced ∧ Os.ofTag package.os.tag = package.os ∧
      Os.ofJsonText? (Text.utf8 package.os.jsonText) = some package.os ∧
      package.os.tag = (Os.ofTag "mac").tag ∧
      package.arch.Produced ∧ package.arch.tag ≠ (Arch.ofTag "RISCV64").tag ∧
      (∀ item : Item, Item.order { item with arch := package.arch }
        { item with arch := Arch.ofTag "RISCV64" } ≠ .eq) ∧
      (Os.other "haiku").Produced ∧ ¬ (Os.other "mac").Produced ∧
      package.IsConsidered (contextOn "mac" "aarch64") ∧
      ¬ package.IsConsidered (contextOn "Linux" "aarch64") ∧
      Product.firstFitting (contextOn "Linux" "aarch64") [package] =
        Product.firstFitting (contextOn "Linux" "aarch64") [] := by
  obtain ⟨hosTags, harchTags, hos, harch, hother, -, hlisting, hread, hinsert⟩ :=
    tags_up_to_case_and_aliases
  obtain ⟨package, hpackage, hmac, harm⟩ : ∃ package, Package.read macPackage = .ok package ∧
      package.os = Os.ofTag "mac" ∧ package.arch = Arch.ofTag "aarch64" :=
    ⟨_, rfl, by decide +kernel, by decide +kernel⟩
  obtain ⟨hosTag, hosJson, hosTagInj⟩ := hos package.os (.package hpackage)
  obtain ⟨-, -, harchTagInj⟩ := harch package.arch (.package hpackage)
  have harchNe : package.arch ≠ Arch.ofTag "RISCV64" := by
    rw [harm]
    decide +kernel
  obtain ⟨os, arch, hosName, harchName, hiff⟩ := hread macPackage package hpackage
  obtain rfl : "Darwin" = os := Json.string.inj (Option.some.inj hosName)
  obtain rfl : "ARM64" = arch := Json.string.inj harchName
  have hconsidered : package.IsConsidered (contextOn "mac" "aarch64") := by
    refine (hiff _ _ _).mpr ⟨(hosTags _ _).mp ?_, (harchTags _ _).mp ?_⟩ <;> decide +kernel
  have hlinux : ¬ package.IsConsidered (contextOn "Linux" "aarch64") := by
    intro h
    have hsame := (hosTags "Darwin" "Linux").mpr ((hiff _ _ _).mp h).1
    exact absurd hsame (by decide +kernel)
  refine ⟨package, hpackage, .package hpackage, hosTag, hosJson,
    (hosTagInj _ (.tag "mac")).mpr hmac, .package hpackage,
    fun htag => harchNe ((harchTagInj _ (.tag "RISCV64")).mp htag), fun item htie => ?listing,
    ?unknown, ?known, hconsidered, hlinux, hinsert _ package [] [] hlinux⟩
  case listing => exact harchNe ((hlisting _ _ (.package hpackage) (.tag "RISCV64")).mp htie).2
  case unknown =>
    exact (hother "haiku").mpr ⟨Text.map_toLower_eq_self_iff.mp (by decide +kernel), by decide⟩
  case known => exact fun h => absurd (by decide) ((hother "mac").mp h).2

end JdkCatalog
