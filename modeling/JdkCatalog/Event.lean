import JdkCatalog.Rejection

/-!
# Events

What is reported while a feed is loaded, and computations that report.
-/

namespace JdkCatalog

/-- How important an event is. -/
inductive Level where
  | trace
  | debug
  | info
  | warn
deriving DecidableEq

/-- The name of a level. -/
def Level.name : Level → String
  | trace => "TRACE"
  | debug => "DEBUG"
  | info => "INFO"
  | warn => "WARN"

/-- Something worth reporting. -/
inductive Event where
  /-- A package of a product cannot be read. -/
  | droppingPackage (vendor version : String) (index : Nat) (reason : Rejection)
  /-- The filter of a package for the right platform does not hold. -/
  | packageFilterRejected (url : String) (verdict : Verdict)
  /-- A product of the feed is left out. -/
  | skippingProduct (index : Nat) (vendor version : String) (reason : Rejection)
  /-- No product of the feed is left. -/
  | nothingFits (url : String) (products : Nat)
  /-- A feed has been loaded. -/
  | loaded (url : String) (items skipped : Nat)
deriving DecidableEq

/-- The value of a field of an event. -/
inductive EventValue where
  | text (s : String)
  | count (n : Nat)
deriving DecidableEq

namespace Event

/-- The level of an event. -/
def level : Event → Level
  | droppingPackage .. => .trace
  | packageFilterRejected .. => .trace
  | skippingProduct .. => .debug
  | nothingFits .. => .warn
  | loaded .. => .info

/-- What an event says. -/
def message : Event → String
  | droppingPackage .. => "dropping package"
  | packageFilterRejected .. => "package filter rejected"
  | skippingProduct .. => "skipping JDK product"
  | nothingFits .. => "no JDK in the feed fits this platform"
  | loaded .. => "loaded JDK feed"

/-- The fields that go with the message. -/
def fields : Event → List (String × EventValue)
  | droppingPackage vendor version index reason =>
    [("vendor", .text vendor), ("version", .text version), ("index", .count index),
      ("reason", .text reason.message)]
  | packageFilterRejected url verdict =>
    [("url", .text url), ("verdict", .text verdict.text)]
  | skippingProduct index vendor version reason =>
    [("index", .count index), ("vendor", .text vendor), ("version", .text version),
      ("reason", .text reason.message)]
  | nothingFits url products => [("url", .text url), ("products", .count products)]
  | loaded url items skipped =>
    [("url", .text url), ("items", .count items), ("skipped", .count skipped)]

end Event

/-- A result together with the events reported on the way, in order. -/
structure Logged (α : Type) where
  /-- The result. -/
  value : α
  /-- The events. -/
  events : List Event

namespace Logged

/-- Reports one event. -/
def report (event : Event) : Logged Unit :=
  ⟨(), [event]⟩

instance : Monad Logged where
  pure a := ⟨a, []⟩
  bind x f :=
    let y := f x.value
    ⟨y.value, x.events ++ y.events⟩

variable {α β : Type}

/-- Goes through a list in order. -/
def forEach (as : List α) (f : α → Logged β) : Logged (List β) :=
  let logs := as.map f
  ⟨logs.map value, logs.flatMap events⟩

@[simp] theorem value_pure (a : α) : (pure a : Logged α).value = a := rfl

@[simp] theorem events_pure (a : α) : (pure a : Logged α).events = [] := rfl

@[simp] theorem value_bind (x : Logged α) (f : α → Logged β) :
    (x >>= f).value = (f x.value).value := rfl

@[simp] theorem events_bind (x : Logged α) (f : α → Logged β) :
    (x >>= f).events = x.events ++ (f x.value).events := rfl

@[simp] theorem events_report (event : Event) : (report event).events = [event] := rfl

@[simp] theorem value_forEach (as : List α) (f : α → Logged β) :
    (forEach as f).value = as.map fun a => (f a).value := by
  simp [forEach, Function.comp_def]

@[simp] theorem events_forEach (as : List α) (f : α → Logged β) :
    (forEach as f).events = as.flatMap fun a => (f a).events := by
  simp [forEach, List.flatMap_map]

end Logged

end JdkCatalog
