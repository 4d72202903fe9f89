import JdkCatalog.Filter
import JdkCatalog.Verdict

/-!
# Evaluating filters

The verdict of a filter on a build.  Items are looked at in order and only
as far as needed; an item that cannot be decided matters only if no other
item decides.  A list without items does not hold, in a conjunction either.
-/

namespace JdkCatalog.Filter

/-- The verdict of a range on a build: undecided if a bound is malformed. -/
def evaluateRange (build : BuildNumber) : Option Bound → Option Bound → Verdict
  | some (.malformed _), _ => .unknown
  | _, some (.malformed _) => .unknown
  | earliest, latest =>
    let tooOld :=
      match earliest with
      | some (.build b) => (compare b build).isGT
      | _ => false
    let tooNew :=
      match latest with
      | some (.build b) => (compare build b).isGT
      | _ => false
    Verdict.ofBool (!tooOld && !tooNew)

/-- The verdict of a filter on a build. -/
def evaluate (build : BuildNumber) : Filter → Verdict
  | literal value => Verdict.ofBool value
  | all [] => .fails
  | all (item :: items) => conjunction false (item :: items)
  | any items => disjunction false items
  | negation item => (evaluate build item).not
  | builds earliest latest => evaluateRange build earliest latest
  | unrecognized _ => .unknown
where
  /-- No item so far has failed; `undecided` tells whether one could not be
  decided. -/
  conjunction (undecided : Bool) : List Filter → Verdict
    | [] => if undecided then .unknown else .holds
    | item :: items =>
      match evaluate build item with
      | .fails => .fails
      | .unknown => conjunction true items
      | .holds => conjunction undecided items
  /-- No item so far has held; `undecided` tells whether one could not be
  decided. -/
  disjunction (undecided : Bool) : List Filter → Verdict
    | [] => if undecided then .unknown else .fails
    | item :: items =>
      match evaluate build item with
      | .holds => .holds
      | .unknown => disjunction true items
      | .fails => disjunction undecided items

/-- The verdict of a filter that need not be there: where there is none,
nothing is filtered out. -/
def evaluate? (build : BuildNumber) : Option Filter → Verdict
  | none => .holds
  | some filter => filter.evaluate build

end JdkCatalog.Filter
