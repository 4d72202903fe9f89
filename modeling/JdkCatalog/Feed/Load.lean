import JdkCatalog.Compression
import JdkCatalog.Config
import JdkCatalog.Feed.Source
import JdkCatalog.Selection

/-!
# Loading a feed

A feed is fetched, decompressed, parsed, and searched for items.  A failure of
one of the first three steps ends the load; a product that cannot be used is
only left out.
-/

namespace JdkCatalog.Feed

/-- Why a feed cannot be loaded. -/
inductive LoadError where
  | fetch (url : String) (source : SourceError)
  | decompress (url : String)
  | parse (url : String) (source : Document.ReadError)
deriving DecidableEq

namespace LoadError

/-- The address of the feed. -/
def url : LoadError → String
  | fetch url _ => url
  | decompress url => url
  | parse url _ => url

/-- The wording of an error; for compressed data that is damaged only the
beginning. -/
def message : LoadError → String
  | fetch url source => "failed to download JDK feed from " ++ url ++ ": " ++ source.message
  | decompress url => "failed to decompress JDK feed from " ++ url ++ ": "
  | parse url source => "failed to parse JDK feed from " ++ url ++ ": " ++ source.message

end LoadError

/-- What a load comes to, with what the indicator was told. -/
structure Outcome (α : Type) where
  /-- The result. -/
  result : Except LoadError α
  /-- The calls to the indicator. -/
  calls : List Call

/-- The document in the bytes of a feed. -/
def documentOf (decoders : Compression.Decoders) (url : String) (bytes : List UInt8) :
    Except LoadError Document :=
  match Compression.decode? decoders bytes with
  | none => .error (.decompress url)
  | some data => (Document.read data).mapError (.parse url)

/-- Fetches a feed as a document. -/
def retrieve (decoders : Compression.Decoders) (source : Source) (config : Config)
    (indicator : Indicator) : Outcome Document :=
  match (source.fetch config.feedUrl).run indicator with
  | (.error e, calls) => ⟨.error (.fetch config.feedUrl e), calls⟩
  | (.ok bytes, calls) => ⟨documentOf decoders config.feedUrl bytes, calls⟩

/-- The items of a document, with a report on how many there are. -/
def itemsOf (config : Config) (document : Document) : Logged (List Item) := do
  let report ← document.report config.context
  if report.items.isEmpty && !document.products.isEmpty then
    Logged.report (.nothingFits config.feedUrl document.products.length)
  Logged.report (.loaded config.feedUrl report.items.length report.skipped.length)
  return report.items

/-- Loads the items of a feed.  A load that fails reports nothing. -/
def load (decoders : Compression.Decoders) (source : Source) (config : Config)
    (indicator : Indicator) : Logged (Outcome (List Item)) :=
  let fetched := retrieve decoders source config indicator
  match fetched.result with
  | .error e => return ⟨.error e, fetched.calls⟩
  | .ok document => do
    let items ← itemsOf config document
    return ⟨.ok items, fetched.calls⟩

end JdkCatalog.Feed
