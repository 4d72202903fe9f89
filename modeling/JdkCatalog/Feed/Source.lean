import JdkCatalog.Feed.FileTree
import JdkCatalog.Text.Front

/-!
# Sources

Where the bytes of a feed come from.  Every source first asks whether to go
on, and tells at the end that all is done.
-/

namespace JdkCatalog.Feed

/-- Fetches the feed at an address. -/
structure Source where
  fetch : (url : String) → Fetch (List UInt8)

namespace Source

/-- A source that gives the same bytes for every address. -/
def fixed (bytes : List UInt8) : Source where
  fetch _ := do
    Fetch.goOn
    Fetch.tell (.fraction .one)
    return bytes

/-- The path in an address, with or without a scheme. -/
def pathOfUrl (url : String) : String :=
  match Text.afterFront? "file://".toList url.toList with
  | some path => String.ofList path
  | none => url

/-- The source that reads files, given what reading the file at a path comes
to. -/
def ofReader (read : (path : String) → Except FileError (List UInt8)) : Source where
  fetch url := do
    Fetch.goOn
    let path := pathOfUrl url
    Fetch.tell (.text path)
    match read path with
    | .error e => Fetch.fail (.file e)
    | .ok bytes => do
      Fetch.tell (.fraction .one)
      return bytes

/-- The source that reads the files of a tree. -/
def ofFiles (files : Files) : Source :=
  ofReader files.read

/-- A source whose server answers with nothing but a status. -/
def refusing (code : UInt16) : Source where
  fetch _ := do
    Fetch.goOn
    Fetch.fail (.status code)

end Source

end JdkCatalog.Feed
