import JdkCatalog.Feed.Load

/-!
# The stages of a load

A load fetches, decompresses, parses and selects, and ends at the first stage
that fails.  This module says for every outcome of a load when exactly it comes
about, in terms of what the stages come to on their own.

* `Document.ReadError.HoldsOf` says for each reason why data is no feed what is
  wrong with the data, and `Document.read_eq_error_iff` and
  `Document.read_eq_ok_iff` that the reader finds just that.
* `result_load` composes the stages, and the lemmas after it single out one
  outcome each.
* `run_fixed` and `run_ofReader` are the sources that need no network, with all
  that an indicator is told by them.
-/

namespace JdkCatalog

namespace Document

/-! ## Reading a feed -/

/-- What is wrong with data that is no feed. -/
def ReadError.HoldsOf (data : List UInt8) : ReadError → Prop
  | json failure => Json.read data = .error failure
  | notAnObject => ∃ value, Json.read data = .ok value ∧ ∀ members, value ≠ .object members
  | missingProducts =>
    ∃ members, Json.read data = .ok (.object members) ∧ members.lookup "jdks" = none
  | productsNotArray =>
    ∃ members value, Json.read data = .ok (.object members) ∧
      members.lookup "jdks" = some value ∧ ∀ products, value ≠ .array products

/-- Data is an object with an array of products, and they are anything. -/
def IsIn (document : Document) (data : List UInt8) : Prop :=
  ∃ members, Json.read data = .ok (.object members) ∧
    members.lookup "jdks" = some (.array document.products)

theorem read_eq_error_iff {data : List UInt8} {e : ReadError} :
    read data = .error e ↔ e.HoldsOf data := by
  rw [read]
  cases hread : Json.read data with
  | error failure => cases e <;> simp [ReadError.HoldsOf, hread]
  | ok value =>
    cases value with
    | object members =>
      cases hlookup : members.lookup "jdks" with
      | none =>
        cases e <;> simp [ReadError.HoldsOf, hread, ofJson, hlookup, -List.lookup_eq_none_iff]
      | some value =>
        cases value <;> cases e <;>
          simp [ReadError.HoldsOf, hread, ofJson, hlookup, -List.lookup_eq_none_iff]
    | _ => cases e <;> simp [ReadError.HoldsOf, hread, ofJson]

theorem read_eq_ok_iff {data : List UInt8} {document : Document} :
    read data = .ok document ↔ document.IsIn data := by
  rw [read, IsIn]
  cases hread : Json.read data with
  | error failure => simp
  | ok value =>
    cases value with
    | object members =>
      cases hlookup : members.lookup "jdks" with
      | none => simp [ofJson, hlookup]
      | some value => cases value <;> cases document <;> simp [ofJson, hlookup]
    | _ => simp [ofJson]

end Document

namespace Feed

/-! ## The outcomes of a load -/

variable {decoders : Compression.Decoders} {source : Source} {config : Config}
  {indicator : Indicator}

theorem result_retrieve :
    (retrieve decoders source config indicator).result =
      match ((source.fetch config.feedUrl).run indicator).1 with
      | .error e => .error (.fetch config.feedUrl e)
      | .ok bytes => documentOf decoders config.feedUrl bytes := by
  rw [retrieve]
  rcases (source.fetch config.feedUrl).run indicator with ⟨e | bytes, calls⟩ <;> rfl

theorem calls_retrieve :
    (retrieve decoders source config indicator).calls =
      ((source.fetch config.feedUrl).run indicator).2 := by
  rw [retrieve]
  rcases (source.fetch config.feedUrl).run indicator with ⟨e | bytes, calls⟩ <;> rfl

theorem value_itemsOf (document : Document) :
    (itemsOf config document).value = document.items config.context := by
  rw [itemsOf, Logged.value_bind]
  dsimp only
  split <;> rfl

/-- Selecting is the last stage, and it does not fail. -/
theorem result_load :
    (load decoders source config indicator).value.result =
      (retrieve decoders source config indicator).result.map
        fun document => document.items config.context := by
  rw [load]
  cases (retrieve decoders source config indicator).result with
  | error e => rfl
  | ok document => exact congrArg Except.ok (value_itemsOf document)

theorem calls_load :
    (load decoders source config indicator).value.calls =
      ((source.fetch config.feedUrl).run indicator).2 := by
  rw [← @calls_retrieve decoders, load]
  cases (retrieve decoders source config indicator).result <;> rfl

/-- A load fails as fetching the document fails. -/
theorem load_eq_error_iff {e : LoadError} :
    (load decoders source config indicator).value.result = .error e ↔
      (retrieve decoders source config indicator).result = .error e := by
  rw [result_load]
  cases (retrieve decoders source config indicator).result <;> simp [Except.map]

theorem documentOf_of_decode? {bytes data : List UInt8}
    (h : Compression.decode? decoders bytes = some data) (url : String) :
    documentOf decoders url bytes =
      match Document.read data with
      | .ok document => .ok document
      | .error e => .error (.parse url e) := by
  rw [documentOf, h]
  dsimp only
  cases Document.read data <;> rfl

theorem documentOf_ne_fetch (url url' : String) (bytes : List UInt8) (e : SourceError) :
    documentOf decoders url bytes ≠ .error (.fetch url' e) := by
  cases hdata : Compression.decode? decoders bytes with
  | none => simp [documentOf, hdata]
  | some data =>
    rw [documentOf_of_decode? hdata]
    cases Document.read data <;> simp

theorem documentOf_eq_decompress_iff {url url' : String} {bytes : List UInt8} :
    documentOf decoders url bytes = .error (.decompress url') ↔
      url' = url ∧ Compression.decode? decoders bytes = none := by
  cases hdata : Compression.decode? decoders bytes with
  | none => simp [documentOf, hdata, eq_comm]
  | some data =>
    rw [documentOf_of_decode? hdata]
    cases Document.read data <;> simp

theorem documentOf_eq_parse_iff {url url' : String} {bytes : List UInt8} {e : Document.ReadError} :
    documentOf decoders url bytes = .error (.parse url' e) ↔
      url' = url ∧ ∃ data, Compression.decode? decoders bytes = some data ∧ e.HoldsOf data := by
  cases hdata : Compression.decode? decoders bytes with
  | none => simp [documentOf, hdata]
  | some data =>
    rw [documentOf_of_decode? hdata]
    simp only [Option.some.injEq, exists_eq_left', ← Document.read_eq_error_iff]
    cases Document.read data <;> simp [eq_comm]

theorem documentOf_eq_ok_iff {url : String} {bytes : List UInt8} {document : Document} :
    documentOf decoders url bytes = .ok document ↔
      ∃ data, Compression.decode? decoders bytes = some data ∧ document.IsIn data := by
  cases hdata : Compression.decode? decoders bytes with
  | none => simp [documentOf, hdata]
  | some data =>
    rw [documentOf_of_decode? hdata]
    simp only [Option.some.injEq, exists_eq_left', ← Document.read_eq_ok_iff]
    cases Document.read data <;> simp

theorem load_eq_fetch_iff {url : String} {e : SourceError} :
    (load decoders source config indicator).value.result = .error (.fetch url e) ↔
      url = config.feedUrl ∧ ((source.fetch config.feedUrl).run indicator).1 = .error e := by
  rw [load_eq_error_iff, result_retrieve]
  cases ((source.fetch config.feedUrl).run indicator).1 with
  | error e' => simp [eq_comm]
  | ok bytes => simp [documentOf_ne_fetch]

theorem load_eq_decompress_iff {url : String} :
    (load decoders source config indicator).value.result = .error (.decompress url) ↔
      url = config.feedUrl ∧ ∃ bytes, ((source.fetch config.feedUrl).run indicator).1 = .ok bytes ∧
        Compression.decode? decoders bytes = none := by
  rw [load_eq_error_iff, result_retrieve]
  cases ((source.fetch config.feedUrl).run indicator).1 with
  | error e => simp
  | ok bytes => simp [documentOf_eq_decompress_iff]

theorem load_eq_parse_iff {url : String} {e : Document.ReadError} :
    (load decoders source config indicator).value.result = .error (.parse url e) ↔
      url = config.feedUrl ∧ ∃ bytes, ((source.fetch config.feedUrl).run indicator).1 = .ok bytes ∧
        ∃ data, Compression.decode? decoders bytes = some data ∧ e.HoldsOf data := by
  rw [load_eq_error_iff, result_retrieve]
  cases ((source.fetch config.feedUrl).run indicator).1 with
  | error e => simp
  | ok bytes => simp [documentOf_eq_parse_iff]

theorem load_eq_ok_iff {items : List Item} :
    (load decoders source config indicator).value.result = .ok items ↔
      ∃ bytes, ((source.fetch config.feedUrl).run indicator).1 = .ok bytes ∧
        ∃ data, Compression.decode? decoders bytes = some data ∧
          ∃ document : Document, document.IsIn data ∧ items = document.items config.context := by
  rw [result_load, result_retrieve]
  cases ((source.fetch config.feedUrl).run indicator).1 with
  | error e => simp [Except.map]
  | ok bytes =>
    constructor
    · intro h
      cases hdocument : documentOf decoders config.feedUrl bytes with
      | error e => simp [hdocument, Except.map] at h
      | ok document =>
        obtain ⟨data, hdata, hin⟩ := documentOf_eq_ok_iff.mp hdocument
        simp only [hdocument, Except.map, Except.ok.injEq] at h
        exact ⟨bytes, rfl, data, hdata, document, hin, h.symm⟩
    · rintro ⟨bytes', hbytes, data, hdata, document, hin, rfl⟩
      cases hbytes
      simp only [documentOf_eq_ok_iff.mpr ⟨data, hdata, hin⟩, Except.map]

/-- An error tells of the address that was asked for. -/
theorem url_of_load_eq_error {e : LoadError}
    (h : (load decoders source config indicator).value.result = .error e) :
    e.url = config.feedUrl := by
  cases e with
  | fetch url e => exact (load_eq_fetch_iff.mp h).1
  | decompress url => exact (load_eq_decompress_iff.mp h).1
  | parse url e => exact (load_eq_parse_iff.mp h).1

/-! ## Sources that need no network -/

/-- What begins with asking whether to go on ends there if the answer is no. -/
theorem run_goOn_bind {α : Type} (x : Fetch α) (indicator : Indicator) :
    (do Fetch.goOn; x).run indicator =
      if indicator.isCanceled [.check] then (.error (.canceled {}), [.check])
      else x indicator [.check] := by
  cases h : indicator.isCanceled [.check] <;> simp [Fetch.run, Fetch.goOn, bind, h]

theorem run_fixed (bytes : List UInt8) (url : String) (indicator : Indicator) :
    ((Source.fixed bytes).fetch url).run indicator =
      if indicator.isCanceled [.check] then (.error (.canceled {}), [.check])
      else (.ok bytes, [.check, .fraction .one]) :=
  run_goOn_bind _ indicator

theorem run_ofReader (read : String → Except FileError (List UInt8)) (url : String)
    (indicator : Indicator) :
    ((Source.ofReader read).fetch url).run indicator =
      if indicator.isCanceled [.check] then (.error (.canceled {}), [.check])
      else
        match read (Source.pathOfUrl url) with
        | .error e => (.error (.file e), [.check, .text (Source.pathOfUrl url)])
        | .ok bytes => (.ok bytes, [.check, .text (Source.pathOfUrl url), .fraction .one]) := by
  rw [Source.ofReader, run_goOn_bind]
  split
  · rfl
  · cases hread : read (Source.pathOfUrl url) <;>
      simp [Fetch.tell, Fetch.fail, bind, pure]

/-- The sources that need no network: fixed bytes, and files, wherever and
however they are kept. -/
inductive Source.IsLocal : Source → Prop where
  | fixed (bytes : List UInt8) : IsLocal (.fixed bytes)
  | files (read : String → Except FileError (List UInt8)) : IsLocal (.ofReader read)

/-- Nothing is done for one who does not wait any more. -/
theorem Source.IsLocal.run_of_isCanceled {source : Source} (h : source.IsLocal) (url : String)
    {indicator : Indicator} (hcanceled : indicator.isCanceled [.check] = true) :
    (source.fetch url).run indicator = (.error (.canceled {}), [.check]) := by
  cases h with
  | fixed bytes => rw [run_fixed, if_pos hcanceled]
  | files read => rw [run_ofReader, if_pos hcanceled]

/-- That all is done is told if and only if there are bytes. -/
theorem Source.IsLocal.fraction_one_mem_iff {source : Source} (h : source.IsLocal) (url : String)
    (indicator : Indicator) :
    .fraction .one ∈ ((source.fetch url).run indicator).2 ↔
      ∃ bytes, ((source.fetch url).run indicator).1 = .ok bytes := by
  cases h with
  | fixed bytes =>
    rw [run_fixed]
    split <;> simp
  | files read =>
    rw [run_ofReader]
    split
    · simp
    · split <;> simp

/-! ## The result -/

/-- What a load comes to, for any source: it fails in the first stage that
fails, with what went wrong there and the address that was asked for, and
otherwise it comes to the items of the document, whatever the products in it
are.  A source that needs no network ends with nothing more told if the load
has been canceled before, and tells that all is done if and only if it has the
bytes. -/
theorem load_stages (decoders : Compression.Decoders) (config : Config) (indicator : Indicator) :
    (∀ source : Source,
      let result := (load decoders source config indicator).value.result
      let fetched := ((source.fetch config.feedUrl).run indicator).1
      (∀ url e, result = .error (.fetch url e) ↔ url = config.feedUrl ∧ fetched = .error e) ∧
      (∀ url, result = .error (.decompress url) ↔ url = config.feedUrl ∧
        ∃ bytes, fetched = .ok bytes ∧ Compression.decode? decoders bytes = none) ∧
      (∀ url e, result = .error (.parse url e) ↔ url = config.feedUrl ∧
        ∃ bytes, fetched = .ok bytes ∧
          ∃ data, Compression.decode? decoders bytes = some data ∧ e.HoldsOf data) ∧
      (∀ items, result = .ok items ↔
        ∃ bytes, fetched = .ok bytes ∧
          ∃ data, Compression.decode? decoders bytes = some data ∧
            ∃ document : Document, document.IsIn data ∧ items = document.items config.context) ∧
      ∀ e, result = .error e → e.url = config.feedUrl) ∧
    ∀ source : Source, source.IsLocal →
      (indicator.isCanceled [.check] = true →
        (load decoders source config indicator).value.result =
            .error (.fetch config.feedUrl (.canceled {})) ∧
          (load decoders source config indicator).value.calls = [.check]) ∧
      (.fraction .one ∈ (load decoders source config indicator).value.calls ↔
        ∃ bytes, ((source.fetch config.feedUrl).run indicator).1 = .ok bytes) := by
  refine ⟨fun source => ⟨fun _ _ => load_eq_fetch_iff, fun _ => load_eq_decompress_iff,
    fun _ _ => load_eq_parse_iff, fun _ => load_eq_ok_iff, fun _ => url_of_load_eq_error⟩,
    fun source hlocal => ⟨fun hcanceled => ?canceled, ?fraction⟩⟩
  case canceled =>
    have hrun := hlocal.run_of_isCanceled config.feedUrl hcanceled
    rw [load_eq_fetch_iff, calls_load, hrun]
    exact ⟨⟨rfl, rfl⟩, rfl⟩
  case fraction =>
    rw [calls_load]
    exact hlocal.fraction_one_mem_iff config.feedUrl indicator

/-- A feed whose products are a number and `null` is loaded from a file, and
the same file is not looked at by one who does not wait any more. -/
theorem load_of_canceled :
    let config : Config := ⟨"file:///feed", ⟨none, [203], by decide⟩, .linux, .x86_64⟩
    let source := Source.ofReader fun path =>
      if path = "/feed" then .ok (Text.utf8 "\x7b\"jdks\":[1,null]\x7d") else .error .notFound
    (load .standard source config .silent).value.result.toOption = some [] ∧
      (load .standard source config (.ofFlag true)).value.result =
        .error (.fetch "file:///feed" (.canceled {})) ∧
      (load .standard source config (.ofFlag true)).value.calls = [.check] := by
  intro config source
  refine ⟨by decide +kernel, ?_⟩
  have hlocal : source.IsLocal := .files _
  exact ((load_stages .standard config (.ofFlag true)).2 source hlocal).1 rfl

end Feed

end JdkCatalog
