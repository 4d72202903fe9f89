import JdkCatalog.Proofs.BuildNumber.Order
import JdkCatalog.Proofs.Entry
import JdkCatalog.Proofs.Filter.Respelling
import JdkCatalog.Proofs.Selection.Congruence
import Mathlib.Logic.Relation

/-!
# The spelling of bounds does not matter

The bounds of filters can be written in several ways, with one meaning.  This
module carries that from filters up to the selection from a whole feed: a
change of how bounds are written, in as many places as one likes, changes
nothing in what is selected, and neither does a change of how the build of the
context is written.

* `ReadAlike` compares two readings that may fail.
* `Field.text_respelling` and its companions go through the kinds of fields:
  only arrays and filters show a change, and a filter not in its verdicts.
* `Package.readAlike`, `Product.related_read` and `Document.report_respelling`
  go up from packages to feeds.
-/

namespace JdkCatalog

/-! ## Readings that fail alike -/

/-- Two readings fail for the same reason, or what they read is related. -/
inductive ReadAlike {α β : Type} (r : α → β → Prop) :
    Except Rejection α → Except Rejection β → Prop where
  | error (reason : Rejection) : ReadAlike r (.error reason) (.error reason)
  | ok {a : α} {b : β} (h : r a b) : ReadAlike r (.ok a) (.ok b)

namespace ReadAlike

variable {α β γ δ : Type} {r : α → β → Prop} {s : γ → δ → Prop}

theorem bind {x : Except Rejection α} {y : Except Rejection β} {f : α → Except Rejection γ}
    {g : β → Except Rejection δ} (h : ReadAlike r x y)
    (hf : ∀ a b, r a b → ReadAlike s (f a) (g b)) : ReadAlike s (x >>= f) (y >>= g) := by
  cases h with
  | error reason => exact .error reason
  | ok h => exact hf _ _ h

theorem bind_same (x : Except Rejection α) {f : α → Except Rejection γ} {g : α → Except Rejection δ}
    (hf : ∀ a, ReadAlike s (f a) (g a)) : ReadAlike s (x >>= f) (x >>= g) := by
  cases x with
  | error reason => exact .error reason
  | ok a => exact hf a

end ReadAlike

/-- A value, or a value with the text of one bound in it changed. -/
abbrev Json.SameSpelled : Json → Json → Prop :=
  Relation.ReflGen Json.Respelling

namespace Field

/-! ## Fields -/

/-- The members of an object, and those of one with the text of a bound
changed. -/
def Respelling (members members' : Members) : Prop :=
  (Json.object members).Respelling (.object members')

theorem readAlike_object {raw raw' : Json} (h : raw.Respelling raw') :
    ReadAlike Respelling (object raw) (object raw') := by
  obtain ⟨items, items', rfl, rfl⟩ | ⟨members, members', rfl, rfl⟩ := h.shape
  · exact .error .notAnObject
  · exact .ok h

variable {members members' : Members} {name : String}

/-- A field that is read stays as it is, or the change is in it. -/
theorem given?_respelling (h : Respelling members members')
    (hname : name ≠ "since" ∧ name ≠ "until") :
    Json.given? name members' = Json.given? name members ∨
      ∃ value value', Json.given? name members = some value ∧
        Json.given? name members' = some value' ∧ value.Respelling value' := by
  rw [Json.given?, Json.given?]
  obtain heq | ⟨value, value', hs, hs', hvalue⟩ := Json.lookup_respelling h hname
  · exact .inl (by rw [heq])
  · rw [hs, hs']
    refine .inr ⟨value, value', ?_, ?_, hvalue⟩
    all_goals obtain ⟨_, _, rfl, rfl⟩ | ⟨_, _, rfl, rfl⟩ := hvalue.shape <;> rfl

theorem text_respelling (h : Respelling members members')
    (hname : name ≠ "since" ∧ name ≠ "until") : text members' name = text members name := by
  rw [text, text]
  obtain heq | ⟨value, value', hs, hs', hvalue⟩ := given?_respelling h hname
  · rw [heq]
  · rw [hs, hs']
    obtain ⟨_, _, rfl, rfl⟩ | ⟨_, _, rfl, rfl⟩ := hvalue.shape <;> rfl

theorem text?_respelling (h : Respelling members members')
    (hname : name ≠ "since" ∧ name ≠ "until") : text? members' name = text? members name := by
  rw [text?, text?]
  obtain heq | ⟨value, value', hs, hs', hvalue⟩ := given?_respelling h hname
  · rw [heq]
  · rw [hs, hs']
    obtain ⟨_, _, rfl, rfl⟩ | ⟨_, _, rfl, rfl⟩ := hvalue.shape <;> rfl

theorem natural_respelling (h : Respelling members members')
    (hname : name ≠ "since" ∧ name ≠ "until") : natural members' name = natural members name := by
  rw [natural, natural]
  obtain heq | ⟨value, value', hs, hs', hvalue⟩ := given?_respelling h hname
  · rw [heq]
  · rw [hs, hs']
    obtain ⟨_, _, rfl, rfl⟩ | ⟨_, _, rfl, rfl⟩ := hvalue.shape <;> rfl

theorem natural32_respelling (h : Respelling members members')
    (hname : name ≠ "since" ∧ name ≠ "until") :
    natural32 members' name = natural32 members name := by
  rw [natural32, natural32, natural_respelling h hname]

theorem mapM_string?_eq_none {items : List Json} {value : Json} (hmem : value ∈ items)
    (hvalue : value.string? = none) : items.mapM Json.string? = none := by
  rw [Option.eq_none_iff_forall_ne_some]
  intro ss hss
  rw [mapM_string?_eq_some_iff.mp hss, List.mem_map] at hmem
  obtain ⟨s, -, rfl⟩ := hmem
  cases hvalue

theorem texts_respelling (h : Respelling members members')
    (hname : name ≠ "since" ∧ name ≠ "until") : texts members' name = texts members name := by
  rw [texts, texts]
  obtain heq | ⟨value, value', hs, hs', hvalue⟩ := given?_respelling h hname
  · rw [heq]
  rw [hs, hs']
  cases hvalue with
  | bound | member => rfl
  | element before after hvalue =>
    -- The element is no text, before or after the change.
    have hnone := hvalue.shape
    dsimp only
    rw [mapM_string?_eq_none List.mem_append_cons_self,
      mapM_string?_eq_none List.mem_append_cons_self]
    all_goals obtain ⟨_, _, rfl, rfl⟩ | ⟨_, _, rfl, rfl⟩ := hnone <;> rfl

theorem forall₂_sameSpelled_self (items : List Json) :
    List.Forall₂ Json.SameSpelled items items :=
  List.forall₂_same.mpr fun _ _ => .refl

theorem readAlike_array (h : Respelling members members')
    (hname : name ≠ "since" ∧ name ≠ "until") :
    ReadAlike (List.Forall₂ Json.SameSpelled) (array members name) (array members' name) := by
  rw [array, array]
  obtain heq | ⟨value, value', hs, hs', hvalue⟩ := given?_respelling h hname
  · rw [heq]
    split
    · exact .error _
    · exact .ok (forall₂_sameSpelled_self _)
    · exact .error _
  rw [hs, hs']
  cases hvalue with
  | bound | member => exact .error _
  | element before after hvalue =>
    exact .ok (List.rel_append (forall₂_sameSpelled_self before)
      (.cons (.single hvalue) (forall₂_sameSpelled_self after)))

/-- A filter that is read has the same verdicts after the change. -/
theorem filter?_respelling (h : Respelling members members')
    (hname : name ≠ "since" ∧ name ≠ "until") (build : BuildNumber) :
    (filter? members' name).map (Filter.evaluate build) =
      (filter? members name).map (Filter.evaluate build) := by
  rw [filter?, filter?]
  obtain heq | ⟨value, value', hs, hs', hvalue⟩ := given?_respelling h hname
  · rw [heq]
  · rw [hs, hs']
    exact congrArg some (Filter.sameVerdicts_of_respelling build hvalue).verdict

end Field

/-! ## Packages -/

theorem PackageType.read_respelling {members members' : Field.Members}
    (h : Field.Respelling members members') : read members' = read members := by
  rw [read, read, Field.text_respelling h (by decide)]

namespace Package

/-- Two packages are the same but for the spelling of bounds, so that they are
interchangeable on every build. -/
def SameSpelled (package package' : Package) : Prop :=
  ∀ build, package.Interchangeable build build package'

theorem readAlike_of_respelling {raw raw' : Json} (h : raw.Respelling raw') :
    ReadAlike SameSpelled (read raw) (read raw') := by
  refine (Field.readAlike_object h).bind fun members members' hmembers => ?_
  simp (disch := decide) only [Field.text_respelling hmembers, Field.text?_respelling hmembers,
    Field.natural_respelling hmembers, PackageType.read_respelling hmembers]
  refine .bind_same _ fun os => .bind_same _ fun arch => .bind_same _ fun packageType =>
    .bind_same _ fun url => .bind_same _ fun sha256 => .bind_same _ fun archiveSize =>
    .bind_same _ fun archiveFileName => .bind_same _ fun unpackFolder =>
    .bind_same _ fun unpackedSize => .bind_same _ fun installFolderName =>
    .bind_same _ fun javaHomePath => .ok fun build => ⟨rfl, ?_⟩
  exact Field.filter?_respelling hmembers (by decide) build

theorem readAlike {raw raw' : Json} (h : raw.SameSpelled raw') :
    ReadAlike SameSpelled (read raw) (read raw') := by
  cases h with
  | single h => exact readAlike_of_respelling h
  | refl =>
    cases read raw with
    | error reason => exact .error reason
    | ok package => exact .ok fun build => ⟨rfl, rfl⟩

end Package

/-! ## Products -/

namespace Product

/-- Two products are the same but for the spelling of bounds. -/
def SameSpelled (p p' : Product) : Prop :=
  ∀ build, p.Interchangeable build build p'

/-- What is read before the packages is the same, and the packages are the same
but for the spelling of bounds. -/
structure Head.SameSpelled (head head' : Head) : Prop where
  others : head' = { head with members := head'.members, rawPackages := head'.rawPackages }
  members : Field.Respelling head.members head'.members
  rawPackages : List.Forall₂ Json.SameSpelled head.rawPackages head'.rawPackages

theorem readAlike_readHead {raw raw' : Json} (h : raw.Respelling raw') :
    ReadAlike Head.SameSpelled (readHead raw) (readHead raw') := by
  refine (Field.readAlike_object h).bind fun members members' hmembers => ?_
  simp (disch := decide) only [Field.text_respelling hmembers, Field.natural32_respelling hmembers]
  refine .bind_same _ fun vendor => .bind_same _ fun jdkVersionMajor =>
    .bind_same _ fun jdkVersion => .bind_same _ fun suggestedSdkName => ?_
  exact (Field.readAlike_array hmembers (by decide)).bind fun packages packages' hpackages =>
    .ok ⟨rfl, hmembers, hpackages⟩

theorem related_readPackages (vendor version : String) (index : Nat) {raws raws' : List Json}
    (h : List.Forall₂ Json.SameSpelled raws raws') :
    Logged.Related (List.Forall₂ Package.SameSpelled) (readPackages vendor version index raws)
      (readPackages vendor version index raws') := by
  induction h generalizing index with
  | nil => exact .pure .nil
  | @cons raw raw' raws raws' hraw _ ih =>
    rw [readPackages, readPackages]
    have hread := Package.readAlike hraw
    generalize Package.read raw = x at hread ⊢
    generalize Package.read raw' = y at hread ⊢
    cases hread with
    | error reason => exact .report_bind _ (ih (index + 1))
    | ok hpackage =>
      exact (ih (index + 1)).bind fun packages packages' hpackages =>
        .pure (.cons hpackage hpackages)

theorem readAlike_complete {head head' : Head} {packages packages' : List Package}
    (h : head.SameSpelled head') (hpackages : List.Forall₂ Package.SameSpelled packages packages') :
    ReadAlike SameSpelled (head.complete packages) (head'.complete packages') := by
  rw [Head.complete, Head.complete]
  simp (disch := decide) only [Field.text?_respelling h.members, Field.texts_respelling h.members]
  refine .bind_same _ fun product => .bind_same _ fun flavour =>
    .bind_same _ fun jdkVendorVersion => .bind_same _ fun vendorVersion =>
    .bind_same _ fun sharedIndexAliases => .ok fun build => ?_
  exact {
    others := by rw [h.others]
    isDefault := Field.filter?_respelling h.members (by decide) build
    filter := Field.filter?_respelling h.members (by decide) build
    packages := hpackages.imp fun _ _ hpackage => hpackage build }

theorem related_read {raw raw' : Json} (h : raw.Respelling raw') :
    Logged.Related (ReadAlike SameSpelled) (read raw) (read raw') := by
  rw [read, read]
  have hhead := readAlike_readHead h
  generalize readHead raw = x at hhead ⊢
  generalize readHead raw' = y at hhead ⊢
  cases hhead with
  | error reason => exact .pure (.error reason)
  | @ok head head' hhead =>
    have hvendor : head'.vendor = head.vendor := by rw [hhead.others]
    have hversion : head'.jdkVersion = head.jdkVersion := by rw [hhead.others]
    dsimp only
    rw [hvendor, hversion]
    exact (related_readPackages _ _ 0 hhead.rawPackages).bind fun packages packages' hpackages =>
      .pure (readAlike_complete hhead hpackages)

end Product

namespace Selection

theorem ofJson_respelling {raw raw' : Json} (h : raw.Respelling raw') (ctx : Context) :
    ofJson raw' ctx = ofJson raw ctx := by
  apply Logged.Related.eq
  refine (Product.related_read h).bind fun read read' hread => ?_
  cases hread with
  | error reason => exact .pure rfl
  | ok hproduct =>
    dsimp only
    rw [Product.select_congr rfl rfl (hproduct ctx.build)]
    exact ⟨rfl, rfl⟩

theorem ofJson_congr {ctx ctx' : Context} (h : (ctx == ctx') = true) (raw : Json) :
    ofJson raw ctx' = ofJson raw ctx := by
  rw [ofJson, ofJson]
  refine congrArg (Product.read raw >>= ·) (funext fun read => ?_)
  cases read with
  | error reason => rfl
  | ok p => exact Product.select_eq_of_beq BEq.rfl h

end Selection

namespace Document

/-! ## Feeds -/

/-- In one product of a feed the text of one bound is changed. -/
inductive Respelling : Document → Document → Prop where
  | product {raw raw' : Json} (before after : List Json) (h : raw.Respelling raw') :
      Respelling ⟨before ++ raw :: after⟩ ⟨before ++ raw' :: after⟩

theorem shown_respelling {raw raw' : Json} (h : raw.Respelling raw') {key : String}
    (hkey : key ≠ "since" ∧ key ≠ "until") : shown key raw' = shown key raw := by
  obtain ⟨_, _, rfl, rfl⟩ | ⟨_, _, rfl, rfl⟩ := h.shape
  · rfl
  · exact congrArg (·.getD "?") (Json.bind_string?_respelling h hkey)

theorem selectAt_respelling {raw raw' : Json} (h : raw.Respelling raw') (ctx : Context)
    (index : Nat) : selectAt ctx (raw', index) = selectAt ctx (raw, index) := by
  rw [selectAt, selectAt]
  dsimp only
  rw [Selection.ofJson_respelling h, shown_respelling h (by decide), shown_respelling h (by decide)]

theorem report_respelling {document document' : Document} (h : document.Respelling document')
    (ctx : Context) : document'.report ctx = document.report ctx := by
  cases h with
  | product before after h =>
    rw [report, report, Logged.forEach, Logged.forEach]
    simp only [List.zipIdx_append, List.zipIdx_cons, List.map_append, List.map_cons,
      selectAt_respelling h]

/-- The invariant of a sequence of such changes is the report. -/
theorem report_eq_of_respellings {document document' : Document}
    (h : Relation.ReflTransGen Respelling document document') (ctx : Context) :
    document'.report ctx = document.report ctx := by
  induction h with
  | refl => rfl
  | tail _ hlast ih => exact (report_respelling hlast ctx).trans ih

theorem report_congr {ctx ctx' : Context} (h : (ctx == ctx') = true) (document : Document) :
    document.report ctx' = document.report ctx := by
  have hselect : selectAt ctx' = selectAt ctx := by
    funext ⟨raw, index⟩
    rw [selectAt, selectAt]
    dsimp only
    rw [Selection.ofJson_congr h]
  rw [report, report, hselect]

/-- The build of the context may be respelled, too. -/
theorem report_eq_of_build {s s' : String} {build' : BuildNumber} {ctx : Context}
    (hs : BuildNumber.parse s = .ok ctx.build) (hs' : BuildNumber.parse s' = .ok build')
    (h : BuildNumber.Respelling s s') (document : Document) :
    document.report { ctx with build := build' } = document.report ctx := by
  obtain ⟨b, b', hb, hb', hbeq⟩ := h.exists_beq
  cases hs.symm.trans hb
  cases hs'.symm.trans hb'
  have hctx : (ctx == { ctx with build := build' }) = true :=
    Context.beq_iff.mpr ⟨hbeq, rfl, rfl⟩
  exact report_congr hctx document

end Document

/-! ## The result -/

/-- Nothing tells equal build numbers apart.  They have the same place in the
order, which is total and lexicographic, and the same hash; equal filters have
the same verdict on them; and equal products come to the same selection in
equal contexts.  So the report on a feed is the same, with all its items and
all reasons for skipping a product, when the build of the context and any
number of bounds in the feed are respelled. -/
theorem equality_congruence :
    (∀ a b c : BuildNumber, BuildNumber.OrderLaws a b c) ∧
    (∀ (filter filter' : Filter) (build build' : BuildNumber), (filter == filter') = true →
      (build == build') = true → filter.evaluate build = filter'.evaluate build') ∧
    (∀ (p p' : Product) (ctx ctx' : Context), (p == p') = true → (ctx == ctx') = true →
      p.select ctx = p'.select ctx') ∧
    ∀ (document document' : Document) (ctx : Context) (build' : BuildNumber) (s s' : String),
      BuildNumber.parse s = .ok ctx.build → BuildNumber.parse s' = .ok build' →
      BuildNumber.Respelling s s' → Relation.ReflTransGen Document.Respelling document document' →
      document'.report { ctx with build := build' } = document.report ctx := by
  refine ⟨BuildNumber.orderLaws, fun filter filter' build build' hfilter hbuild => ?_,
    fun p p' ctx ctx' hp hctx => (Product.select_eq_of_beq hp hctx).symm,
    fun document document' ctx build' s s' hs hs' hbuild hdocument => ?_⟩
  · exact Filter.evaluate_congr hbuild hfilter
  · rw [Document.report_eq_of_build hs hs' hbuild, Document.report_eq_of_respellings hdocument]

/-- A product that has a range among its conditions, and a package. -/
def productFrom (since : String) (package : Json) : Json :=
  let range : Json := .object [("since", .string since), ("type", .string "build_number_range")]
  .object [("filter", .object [("items", .array [.bool false, range]), ("type", .string "or")]),
    ("jdk_version", .string "17"), ("jdk_version_major", .number (.natural 17)),
    ("packages", .array [package]), ("suggested_sdk_name", .string "n"), ("vendor", .string "v")]

/-- A package for the builds up to one. -/
def packageUntil (latest : String) : Json :=
  .object [("archive_file_name", .string "a"), ("archive_size", .number (.natural 1)),
    ("filter", .object [("type", .string "build_number_range"), ("until", .string latest)]),
    ("install_folder_name", .string "i"), ("os", .string "linux"), ("package_type", .string "zip"),
    ("sha256", .string "s"), ("unpacked_size", .number (.natural 2)), ("url", .string "u")]

theorem respelling_productFrom {since since' : String} (h : Bound.Respelling since since')
    (package : Json) : (productFrom since package).Respelling (productFrom since' package) :=
  .member [] _ (.member [] _ (.element [.bool false] [] (.bound [] _ (.inl rfl) h)))

theorem respelling_packageUntil (since : String) {latest latest' : String}
    (h : Bound.Respelling latest latest') :
    (productFrom since (packageUntil latest)).Respelling
      (productFrom since (packageUntil latest')) :=
  .member [_, _, _] _ (.element [] [] (.member [_, _] _ (.bound [_] [] (.inr rfl) h)))

/-- A build that is not fixed, of a product and of none. -/
def unfixedBuild (code : Option ProductCode) : BuildNumber :=
  ⟨code, [203, BuildNumber.snapshot], List.cons_ne_nil _ _⟩

def ultimateCode : ProductCode :=
  ⟨"IU", by decide, List.all_eq_true.mp (by decide)⟩

theorem component_203 : BuildNumber.Component "203".toList 203 :=
  .numeral ⟨by decide, List.all_eq_true.mp (by decide), fun h => absurd h (by decide), by decide⟩

theorem spells_star : BuildNumber.Spells (Text.trim " IU-203.*".toList) (some ultimateCode)
    ["203".toList, ['*']] [203, BuildNumber.snapshot] :=
  ⟨by decide +kernel, by decide, .cons component_203 (.cons .star .nil)⟩

theorem spells_word : BuildNumber.Spells (Text.trim "203.SNAPSHOT".toList) none
    ["203".toList, "SNAPSHOT".toList] [203, BuildNumber.snapshot] :=
  ⟨by decide +kernel, by decide, .cons component_203 (.cons .snapshot .nil)⟩

theorem respelling_star_word : BuildNumber.Respelling " IU-203.*" "203.SNAPSHOT" :=
  ⟨_, _, _, _, _, _, spells_star, spells_word, .cons (.same _) (.cons .word .nil)⟩

/-- The build of a context and two bounds of a feed are respelled, one of them
in a product and one in its package.  The product that was kept is kept, and
what was skipped is skipped. -/
theorem report_of_respelled_bounds :
    let ctx : Context := ⟨unfixedBuild (some ultimateCode), .linux, .x86_64⟩
    let document : Document := ⟨[productFrom " IU-203.*" (packageUntil " IU-203.*"), .null]⟩
    let document' : Document := ⟨[productFrom "203.SNAPSHOT" (packageUntil "203.SNAPSHOT"), .null]⟩
    (document.report ctx).value.items.length = 1 ∧
      (document.report ctx).value.skipped = [(1, .notAnObject)] ∧
      document'.report { ctx with build := unfixedBuild none } = document.report ctx ∧
      compare ctx.build (unfixedBuild none) = .eq ∧
      Filter.evaluate ctx.build (.builds (some (.build ctx.build)) none) =
        Filter.evaluate (unfixedBuild none) (.builds (some (.build (unfixedBuild none))) none) ∧
      ∃ p p', (Product.read (productFrom " IU-203.*" (packageUntil "204"))).value = .ok p ∧
        (Product.read (productFrom "203.SNAPSHOT" (packageUntil "IU-204"))).value = .ok p' ∧
        p.select ctx = p'.select { ctx with build := unfixedBuild none } := by
  intro ctx document document'
  have hproduct : document.Respelling
      ⟨[productFrom "203.SNAPSHOT" (packageUntil " IU-203.*"), .null]⟩ :=
    .product [] [.null] (respelling_productFrom (.inl respelling_star_word) _)
  have hpackage : Document.Respelling
      ⟨[productFrom "203.SNAPSHOT" (packageUntil " IU-203.*"), .null]⟩ document' :=
    .product [] [.null] (respelling_packageUntil "203.SNAPSHOT" (.inl respelling_star_word))
  obtain ⟨horder, hfilter, hselect, hreport⟩ := equality_congruence
  refine ⟨by decide +kernel, by decide +kernel, ?_, ?_, ?_, _, _, rfl, rfl, ?_⟩
  · exact hreport document document' ctx (unfixedBuild none) " IU-203.*" "203.SNAPSHOT"
      (BuildNumber.parse_of_spells spells_star) (BuildNumber.parse_of_spells spells_word)
      respelling_star_word ((Relation.ReflTransGen.single hproduct).tail hpackage)
  · exact (horder ctx.build (unfixedBuild none) ctx.build).compare_eq_iff.mpr rfl
  · exact hfilter _ _ ctx.build (unfixedBuild none) (by decide) (by decide)
  · exact hselect _ _ ctx { ctx with build := unfixedBuild none } (by decide +kernel) (by decide)

end JdkCatalog
