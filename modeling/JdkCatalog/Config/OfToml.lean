import JdkCatalog.BuildNumber.Grammar
import JdkCatalog.Config
import JdkCatalog.Toml.Document

/-!
# Configurations as TOML

    feed_url = "…"
    build = "…"
    os = "…"
    arch = "…"

All but the build may be left out; what is left out comes from the machine
that the program runs on.  Of several faults the first in the document is
reported, then that the build is missing, then that it is not a build number.
-/

namespace JdkCatalog

/-- The machine that the program runs on. -/
structure Host where
  os : Os
  arch : Arch

namespace Config

/-- Why a table is no configuration. -/
inductive TableError where
  | unknownKey (key : String)
  | notAString (value : Toml.Value)
  | missingBuild

/-- Why a text is no configuration. -/
inductive ReadError where
  | notToml
  | table (error : TableError)
  | build (error : BuildNumber.Malformed)

/-- The keys that a configuration may have. -/
def keys : List String :=
  ["feed_url", "build", "os", "arch"]

/-- What a value is, in the wording of errors. -/
def kindText : Toml.Value → String
  | .string _ => "string"
  | .integer n => "integer `" ++ n.toInt.repr ++ "`"
  | .real x => "floating point `" ++ x.text ++ "`"
  | .boolean b => "boolean `" ++ (if b then "true" else "false") ++ "`"
  | .moment _ => "map"
  | .array _ => "sequence"
  | .table _ => "map"

/-- The wording of an error. -/
def TableError.message : TableError → String
  | unknownKey key =>
    "unknown field `" ++ key ++ "`, expected one of " ++
      ", ".intercalate (keys.map fun key => "`" ++ key ++ "`")
  | notAString value => "invalid type: " ++ kindText value ++ ", expected a string"
  | missingBuild => "missing field `build`"

/-- The wording of an error.  Of a text that is not TOML and of a table that is no
configuration the place in the text is shown as well; this is left out.  Of a text that
is not TOML only the beginning is given. -/
def ReadError.message : ReadError → String
  | notToml => "invalid feed configuration: "
  | table error => "invalid feed configuration: " ++ error.message
  | build error => "invalid build number in feed configuration: " ++ error.message

/-- The setting that an entry of a table makes. -/
def setting : String × Toml.Value → Except TableError (String × String)
  | (key, value) =>
    if key ∈ keys then
      match value with
      | .string s => .ok (key, s)
      | _ => .error (.notAString value)
    else
      .error (.unknownKey key)

/-- The configuration that settings with a build make. -/
def ofSettings (host : Host) (build : BuildNumber) (settings : List (String × String)) :
    Config where
  feedUrl := (settings.lookup "feed_url").getD standardFeedUrl
  build := build
  os := ((settings.lookup "os").map Os.ofTag).getD host.os
  arch := ((settings.lookup "arch").map Arch.ofTag).getD host.arch

/-- The configuration that a table stands for. -/
def ofTable (host : Host) (entries : List (String × Toml.Value)) : Except ReadError Config :=
  match entries.mapM setting with
  | .error e => .error (.table e)
  | .ok settings =>
    match settings.lookup "build" with
    | none => .error (.table .missingBuild)
    | some text =>
      match BuildNumber.parse text with
      | .error e => .error (.build e)
      | .ok build => .ok (ofSettings host build settings)

/-- The configuration that a text stands for. -/
def ofToml (host : Host) (text : String) : Except ReadError Config :=
  match Toml.read? text with
  | none => .error .notToml
  | some entries => ofTable host entries

end Config

end JdkCatalog
