import JdkCatalog.Feed.Cancellation
import JdkCatalog.Number.Shortest

/-!
# Progress

What a download tells the one who waits for it, and how it is told to stop.
An indicator is asked whether to go on, and what it answers may depend on
all that it has been told.
-/

namespace JdkCatalog.Feed

/-- A call to an indicator. -/
inductive Call where
  /-- It is asked whether to go on. -/
  | check
  /-- It is told which part is done. -/
  | fraction (done : Number.Binary64)
  /-- It is told what is being done. -/
  | text (s : String)
deriving DecidableEq

/-- The one who waits. -/
structure Indicator where
  /-- Whether to stop, after all calls including the one that asks. -/
  isCanceled : List Call → Bool

namespace Indicator

/-- Nobody waits, so nobody cancels. -/
def silent : Indicator :=
  ⟨fun _ => false⟩

/-- A flag that has been canceled, or not, before. -/
def ofFlag (isCanceled : Bool) : Indicator :=
  ⟨fun _ => isCanceled⟩

end Indicator

/-- Why a file cannot be read. -/
inductive FileError where
  | nulInName
  | notFound
  | notADirectory
  | isADirectory
  | nameTooLong
  /-- Any other error, by its wording. -/
  | other (wording : String)
deriving DecidableEq

/-- The wording of an error, with its number if the operating system has one for
it. -/
def FileError.message : FileError → String
  | nulInName => "file name contained an unexpected NUL byte"
  | notFound => "No such file or directory (os error 2)"
  | notADirectory => "Not a directory (os error 20)"
  | isADirectory => "Is a directory (os error 21)"
  | nameTooLong => "File name too long (os error 36)"
  | other wording => wording

/-- Why a feed cannot be fetched. -/
inductive SourceError where
  | canceled (reason : Canceled)
  | file (error : FileError)
  | status (code : UInt16)
deriving DecidableEq

/-- The wording of an error. -/
def SourceError.message : SourceError → String
  | canceled reason => reason.message
  | file error => "I/O error: " ++ error.message
  | status code => "server responded with status " ++ code.toNat.repr

/-- A download in the sight of an indicator: it goes on from the calls so far,
and ends with a result or an error and with the calls that have been made
then. -/
def Fetch (α : Type) : Type :=
  Indicator → List Call → Except SourceError α × List Call

namespace Fetch

instance : Monad Fetch where
  pure a := fun _ calls => (.ok a, calls)
  bind x f := fun indicator calls =>
    match x indicator calls with
    | (.ok a, calls) => f a indicator calls
    | (.error e, calls) => (.error e, calls)

/-- Goes on unless the indicator says to stop. -/
def goOn : Fetch Unit := fun indicator calls =>
  let calls := calls ++ [.check]
  (if indicator.isCanceled calls then .error (.canceled {}) else .ok (), calls)

/-- Tells the indicator something. -/
def tell (call : Call) : Fetch Unit := fun _ calls =>
  (.ok (), calls ++ [call])

/-- Ends with an error. -/
def fail {α : Type} (e : SourceError) : Fetch α := fun _ calls =>
  (.error e, calls)

/-- The result and the calls of a whole download. -/
def run {α : Type} (x : Fetch α) (indicator : Indicator) : Except SourceError α × List Call :=
  x indicator []

end Fetch

end JdkCatalog.Feed
