import JdkCatalog.Document
import JdkCatalog.Filter.Evaluation
import JdkCatalog.Item

/-!
# Selection

Choosing the items of a feed for a context: of each product the first
package for the platform whose filter holds, provided the filter of the
product holds.  Products that give no item are skipped with a reason, and no
product has an influence on another.
-/

namespace JdkCatalog

/-- What becomes of a product. -/
inductive Selection where
  | kept (item : Item)
  | skipped (reason : Rejection)
deriving DecidableEq

/-- The item of a product that was kept. -/
def Selection.item? : Selection → Option Item
  | kept item => some item
  | skipped _ => none

/-- Why a product was skipped. -/
def Selection.rejection? : Selection → Option Rejection
  | kept _ => none
  | skipped reason => some reason

namespace Product

/-- The first package for the platform of a context whose filter holds. -/
def firstFitting (ctx : Context) : List Package → Logged (Option Package)
  | [] => return none
  | package :: packages =>
    if package.os = ctx.os ∧ package.arch = ctx.arch then
      match Filter.evaluate? ctx.build package.filter with
      | .holds => return some package
      | verdict => do
        Logged.report (.packageFilterRejected package.url verdict)
        firstFitting ctx packages
    else
      firstFitting ctx packages

/-- A product is a default choice only if it says so; a condition that cannot
be decided does not say so. -/
def isDefaultFor (product : Product) (build : BuildNumber) : Bool :=
  match product.isDefault with
  | none => false
  | some filter => filter.evaluate build = .holds

/-- What becomes of a product in a context. -/
def select (product : Product) (ctx : Context) : Logged Selection :=
  match Filter.evaluate? ctx.build product.filter with
  | .holds => do
    match ← firstFitting ctx product.packages with
    | none => return .skipped .noPackage
    | some package =>
      return .kept (Item.ofPackage product package (product.isDefaultFor ctx.build))
  | verdict => return .skipped (.filtered verdict)

end Product

/-- What becomes of a product of a feed, as it was written. -/
def Selection.ofJson (raw : Json) (ctx : Context) : Logged Selection := do
  match ← Product.read raw with
  | .error reason => return .skipped reason
  | .ok product => product.select ctx

/-- What was selected from a feed, and what was not. -/
structure Report where
  /-- The items so far. -/
  kept : Array Item := #[]
  /-- The products without an item so far, by their place in the feed. -/
  leftOut : Array (Nat × Rejection) := #[]
deriving DecidableEq

namespace Report

/-- The items, in the order of their products. -/
def items (report : Report) : List Item :=
  report.kept.toList

/-- The products without an item, by their place in the feed. -/
def skipped (report : Report) : List (Nat × Rejection) :=
  report.leftOut.toList

/-- Adds what became of the product at a place of the feed. -/
def push (report : Report) (index : Nat) : Selection → Report
  | .kept item => { report with kept := report.kept.push item }
  | .skipped reason => { report with leftOut := report.leftOut.push (index, reason) }

/-- Adds what became of the products from a place of the feed on. -/
def pushFrom (report : Report) (index : Nat) : List Selection → Report
  | [] => report
  | selection :: selections => pushFrom (report.push index selection) (index + 1) selections

/-- The report on what became of all products, in the order of the feed. -/
def ofSelections (selections : List Selection) : Report :=
  pushFrom {} 0 selections

/-- The counts of a report. -/
def text (report : Report) : String :=
  "kept: " ++ report.items.length.repr ++ ", skipped: " ++ report.skipped.length.repr

end Report

namespace Document

/-- A text of a product for the log. -/
def shown (key : String) (raw : Json) : String :=
  ((raw.member? key).bind Json.string?).getD "?"

/-- What becomes of the product at a place of a feed; skipping it is an event. -/
def selectAt (ctx : Context) (product : Json × Nat) : Logged Selection := do
  let (raw, index) := product
  let selection ← Selection.ofJson raw ctx
  if let .skipped reason := selection then
    Logged.report (.skippingProduct index (shown "vendor" raw) (shown "jdk_version" raw) reason)
  return selection

/-- What is selected from a feed, product by product. -/
def report (document : Document) (ctx : Context) : Logged Report := do
  return .ofSelections (← Logged.forEach document.products.zipIdx (selectAt ctx))

/-- The items of a feed. -/
def items (document : Document) (ctx : Context) : List Item :=
  (document.report ctx).value.items

/-- The items of a feed in the order of listings. -/
def listing (document : Document) (ctx : Context) : List Item :=
  Item.sort (document.items ctx)

end Document

end JdkCatalog
