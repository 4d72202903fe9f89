import JdkCatalog.Proofs.Feed.Stages

/-!
# Compression does not show

A feed is the same feed whether it is compressed or not, provided that the
decoders give back what was compressed.  What they are is left open here.

* `Json.read_eq_malformed` says that the reader refuses a text by its first
  byte, so that no feed begins with the magic of a format.
* `Compression.decode?_of_plain` is about data without a magic, which is passed
  on as it is, and `Compression.Unpacks` about data with one: what the decoder
  of the format makes of it, if it makes anything of it.
* `retrieve_of_unpacks` compares loading a packed feed with loading what was
  packed.
-/

namespace JdkCatalog

/-! ## Magics start no text -/

/-- The first bytes of the two magics start no JSON text. -/
theorem Json.read_eq_malformed {b : UInt8} (hb : b = 0x1f ∨ b = 0xfd) (rest : List UInt8) :
    Json.read (b :: rest) = .error .malformed := by
  rcases hb with rfl | rfl <;> rfl

namespace Compression

/-- Bytes begin with the magic of a format. -/
def HasMagic (bytes : List UInt8) : Prop :=
  gzipMagic <+: bytes ∨ xzMagic <+: bytes

theorem HasMagic.exists_cons {bytes : List UInt8} (h : HasMagic bytes) :
    ∃ b rest, (b = 0x1f ∨ b = 0xfd) ∧ bytes = b :: rest := by
  rcases h with ⟨rest, rfl⟩ | ⟨rest, rfl⟩
  · exact ⟨_, _, .inl rfl, rfl⟩
  · exact ⟨_, _, .inr rfl, rfl⟩

end Compression

open Compression

namespace Document

theorem read_of_hasMagic {bytes : List UInt8} (h : HasMagic bytes) :
    read bytes = .error (.json .malformed) := by
  obtain ⟨b, rest, hb, rfl⟩ := h.exists_cons
  rw [read_eq_error_iff]
  exact Json.read_eq_malformed hb rest

theorem not_hasMagic_of_read {bytes : List UInt8} {document : Document}
    (h : read bytes = .ok document) : ¬ HasMagic bytes := by
  intro hmagic
  rw [read_of_hasMagic hmagic] at h
  cases h

end Document

namespace Compression

/-! ## What is decoded -/

variable {decoders : Decoders} {bytes packed : List UInt8} {data? : Option (List UInt8)}

theorem decode?_of_plain (h : ¬ HasMagic bytes) : decode? decoders bytes = some bytes := by
  obtain ⟨hgzip, hxz⟩ := not_or.mp h
  rw [← List.isPrefixOf_iff_prefix] at hgzip hxz
  rw [decode?, Format.of, if_neg hgzip, if_neg hxz]

/-- A part of a magic is no magic, whether the bytes end there or go on in
another way. -/
example (decoders : Decoders) :
    decode? decoders [0x1f] = some [0x1f] ∧ decode? decoders [0x1f, 0x8c] = some [0x1f, 0x8c] ∧
      decode? decoders [0xfd, 0x37, 0x7a, 0x58, 0x5a] = some [0xfd, 0x37, 0x7a, 0x58, 0x5a] :=
  ⟨rfl, rfl, rfl⟩

/-- What the decoder of a format makes of bytes with its magic: some data, or
nothing. -/
def Unpacks (decoders : Decoders) (packed : List UInt8) (data? : Option (List UInt8)) : Prop :=
  gzipMagic <+: packed ∧ decoders.gzip packed = data? ∨
    xzMagic <+: packed ∧ decoders.xz packed = data?

theorem decode?_of_unpacks (h : Unpacks decoders packed data?) :
    decode? decoders packed = data? := by
  rcases h with ⟨hmagic, hdata⟩ | ⟨⟨rest, rfl⟩, hdata⟩
  · rw [decode?, Format.of, if_pos (List.isPrefixOf_iff_prefix.mpr hmagic)]
    exact hdata
  · exact hdata

end Compression

namespace Feed

variable {decoders : Decoders} {config : Config} {indicator : Indicator} {data packed : List UInt8}

/-! ## Packed feeds -/

/-- What a decoder gives is read as it is, and not decoded once more. -/
theorem documentOf_of_unpacks (h : Unpacks decoders packed (some data)) (url : String) :
    documentOf decoders url packed = (Document.read data).mapError (.parse url) := by
  rw [documentOf, decode?_of_unpacks h]

theorem documentOf_of_plain (h : ¬ HasMagic data) (url : String) :
    documentOf decoders url data = (Document.read data).mapError (.parse url) := by
  rw [documentOf, decode?_of_plain h]

/-- What a decoder fails on is not read at all. -/
theorem documentOf_of_damaged (h : Unpacks decoders packed none) (url : String) :
    documentOf decoders url packed = .error (.decompress url) := by
  rw [documentOf, decode?_of_unpacks h]

theorem retrieve_fixed (bytes : List UInt8) :
    retrieve decoders (.fixed bytes) config indicator =
      if indicator.isCanceled [.check] then
        ⟨.error (.fetch config.feedUrl (.canceled {})), [.check]⟩
      else ⟨documentOf decoders config.feedUrl bytes, [.check, .fraction .one]⟩ := by
  rw [retrieve, run_fixed]
  cases indicator.isCanceled [.check] <;> rfl

theorem retrieve_of_unpacks {document : Document} (hread : Document.read data = .ok document)
    (h : Unpacks decoders packed (some data)) :
    retrieve decoders (.fixed packed) config indicator =
      retrieve decoders (.fixed data) config indicator := by
  rw [retrieve_fixed, retrieve_fixed, documentOf_of_unpacks h,
    documentOf_of_plain (Document.not_hasMagic_of_read hread)]

theorem load_congr {source source' : Source}
    (h : retrieve decoders source config indicator = retrieve decoders source' config indicator) :
    load decoders source config indicator = load decoders source' config indicator := by
  rw [load, load, h]

/-- For any decoders: a feed has no magic, and what has none is passed on as it
is.  A packed feed is loaded with the same result as the feed itself, and that
is the document and its items unless the load is canceled.  What a decoder
gives is read, even if it has a magic in turn, and what a decoder fails on is a
failure to decompress and nothing else. -/
theorem compression_transparent (decoders : Decoders) :
    (∀ data document, Document.read data = .ok document → ¬ HasMagic data) ∧
    (∀ bytes, ¬ HasMagic bytes → decode? decoders bytes = some bytes) ∧
    (∀ data document packed, Document.read data = .ok document →
      Unpacks decoders packed (some data) → ∀ config indicator,
      retrieve decoders (.fixed packed) config indicator =
          retrieve decoders (.fixed data) config indicator ∧
        load decoders (.fixed packed) config indicator =
          load decoders (.fixed data) config indicator ∧
        (indicator.isCanceled [.check] = false →
          (retrieve decoders (.fixed data) config indicator).result = .ok document ∧
          (load decoders (.fixed data) config indicator).value.result =
            .ok (document.items config.context))) ∧
    (∀ packed data, Unpacks decoders packed (some data) → ∀ (source : Source) config indicator,
      ((source.fetch config.feedUrl).run indicator).1 = .ok packed →
      (retrieve decoders source config indicator).result =
          (Document.read data).mapError (.parse config.feedUrl) ∧
        (HasMagic data → (retrieve decoders source config indicator).result =
          .error (.parse config.feedUrl (.json .malformed)))) ∧
    ∀ packed, Unpacks decoders packed none → ∀ (source : Source) config indicator,
      ((source.fetch config.feedUrl).run indicator).1 = .ok packed →
      (retrieve decoders source config indicator).result = .error (.decompress config.feedUrl) ∧
        (load decoders source config indicator).value.result =
          .error (.decompress config.feedUrl) := by
  refine ⟨fun _ _ => Document.not_hasMagic_of_read, fun _ => decode?_of_plain, ?same, ?once,
    ?damaged⟩
  case same =>
    intro data document packed hread hunpacks config indicator
    have hsame : retrieve decoders (.fixed packed) config indicator =
        retrieve decoders (.fixed data) config indicator := retrieve_of_unpacks hread hunpacks
    refine ⟨hsame, load_congr hsame, fun hgoing => ?_⟩
    have hresult : (retrieve decoders (.fixed data) config indicator).result = .ok document := by
      rw [retrieve_fixed, hgoing, documentOf_of_plain (Document.not_hasMagic_of_read hread), hread]
      rfl
    rw [result_load, hresult]
    exact ⟨rfl, rfl⟩
  case once =>
    intro packed data hunpacks source config indicator hfetched
    rw [result_retrieve, hfetched]
    dsimp only
    rw [documentOf_of_unpacks hunpacks]
    refine ⟨rfl, fun hmagic => ?_⟩
    rw [Document.read_of_hasMagic hmagic]
    rfl
  case damaged =>
    intro packed hunpacks source config indicator hfetched
    have hresult : (retrieve decoders source config indicator).result =
        .error (.decompress config.feedUrl) := by
      rw [result_retrieve, hfetched]
      exact documentOf_of_damaged hunpacks config.feedUrl
    exact ⟨hresult, load_eq_error_iff.mpr hresult⟩

/-- The smallest feed. -/
def emptyFeed : List UInt8 :=
  Text.utf8 "\x7b\"jdks\":[]\x7d"

def emptyFeedGzip : List UInt8 :=
  [0x1f, 0x8b, 0x08, 0x00, 0x00, 0x00, 0x00, 0x00, 0x02, 0x03, 0xab, 0x56, 0xca, 0x4a, 0xc9, 0x2e,
    0x56, 0xb2, 0x8a, 0x8e, 0xad, 0x05, 0x00, 0xd5, 0xfe, 0x18, 0x01, 0x0b, 0x00, 0x00, 0x00]

def emptyFeedXz : List UInt8 :=
  [0xfd, 0x37, 0x7a, 0x58, 0x5a, 0x00, 0x00, 0x01, 0x69, 0x22, 0xde, 0x36, 0x02, 0x00, 0x21, 0x01,
    0x0c, 0x00, 0x00, 0x00, 0x8f, 0x98, 0x41, 0x9c, 0x01, 0x00, 0x0a, 0x7b, 0x22, 0x6a, 0x64, 0x6b,
    0x73, 0x22, 0x3a, 0x5b, 0x5d, 0x7d, 0x00, 0x00, 0xd5, 0xfe, 0x18, 0x01, 0x00, 0x01, 0x1f, 0x0b,
    0x3d, 0x62, 0x0e, 0x7a, 0x90, 0x42, 0x99, 0x0d, 0x01, 0x00, 0x00, 0x00, 0x00, 0x01, 0x59, 0x5a]

theorem read_emptyFeed : Document.read emptyFeed = .ok ⟨[]⟩ := by
  have hlength : (Document.read emptyFeed).toOption.map (·.products.length) = some 0 := by
    decide +kernel
  cases hread : Document.read emptyFeed with
  | error e =>
    rw [hread] at hlength
    cases hlength
  | ok document =>
    rw [hread] at hlength
    rw [← List.length_eq_zero_iff.mp (Option.some.inj hlength)]

/-- The smallest feed comes out of gzip and of xz, and not out of a part of
them.  Packed twice it is no feed. -/
theorem load_emptyFeed (config : Config) :
    (load .standard (.fixed emptyFeedGzip) config .silent).value.result = .ok [] ∧
      (load .standard (.fixed emptyFeedXz) config .silent).value.result = .ok [] ∧
      (load .standard (.fixed (emptyFeedGzip.take 20)) config .silent).value.result =
        .error (.decompress config.feedUrl) ∧
      (retrieve ⟨fun _ => some emptyFeedXz, fun _ => none⟩ (.fixed emptyFeedGzip) config
          .silent).result =
        .error (.parse config.feedUrl (.json .malformed)) := by
  obtain ⟨-, -, hsame, -, hdamaged⟩ := compression_transparent .standard
  obtain ⟨-, -, -, honce, -⟩ := compression_transparent ⟨fun _ => some emptyFeedXz, fun _ => none⟩
  have hgzip : Unpacks .standard emptyFeedGzip (some emptyFeed) :=
    .inl ⟨by decide, by decide +kernel⟩
  have hxz : Unpacks .standard emptyFeedXz (some emptyFeed) :=
    .inr ⟨by decide, by decide +kernel⟩
  have hpart : Unpacks .standard (emptyFeedGzip.take 20) none :=
    .inl ⟨by decide, by decide +kernel⟩
  refine ⟨?gzip, ?xz, ?part, ?twice⟩
  case gzip =>
    obtain ⟨-, hload, hresult⟩ := hsame _ _ _ read_emptyFeed hgzip config .silent
    rw [hload]
    exact (hresult rfl).2
  case xz =>
    obtain ⟨-, hload, hresult⟩ := hsame _ _ _ read_emptyFeed hxz config .silent
    rw [hload]
    exact (hresult rfl).2
  case part =>
    exact (hdamaged _ hpart (.fixed (emptyFeedGzip.take 20)) config .silent rfl).2
  case twice =>
    exact (honce emptyFeedGzip emptyFeedXz (.inl ⟨by decide, rfl⟩) (.fixed emptyFeedGzip) config
      .silent rfl).2 (.inr (by decide))

end Feed

end JdkCatalog
