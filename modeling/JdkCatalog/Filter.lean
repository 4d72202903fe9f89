import JdkCatalog.BuildNumber.Grammar
import JdkCatalog.Text.Quoted

/-!
# Filters

A filter is a condition on the build number of the program that reads a
feed.  What a feed says and this library does not understand stays in the
tree: a bound that is no build number, or a node of an unknown kind.
-/

namespace JdkCatalog

/-- One end of a range of builds. -/
inductive Bound where
  | build (b : BuildNumber)
  | malformed (text : String)

namespace Bound

/-- The bound that a text stands for. -/
def parse (text : String) : Bound :=
  match BuildNumber.parse text with
  | .ok b => build b
  | .error _ => malformed text

instance : BEq Bound where
  beq
    | build a, build b => a == b
    | malformed s, malformed t => s == t
    | _, _ => false

/-- The text of a bound. -/
def text : Bound → String
  | build b => b.text
  | malformed s => "<malformed " ++ Text.quoted s ++ ">"

end Bound

/-- A condition on a build number. -/
inductive Filter where
  /-- A constant condition. -/
  | literal (value : Bool)
  /-- All items hold, and there is one. -/
  | all (items : List Filter)
  /-- Some item holds. -/
  | any (items : List Filter)
  /-- The item does not hold. -/
  | negation (item : Filter)
  /-- The build is neither below `earliest` nor above `latest`. -/
  | builds (earliest latest : Option Bound)
  /-- A condition of an unknown kind, by its text. -/
  | unrecognized (text : String)

namespace Filter

/-- Filters agree if their trees do, where build numbers agree if their
components do. -/
def agrees : Filter → Filter → Bool
  | literal a, literal b => a == b
  | all as, all bs => agreeAll as bs
  | any as, any bs => agreeAll as bs
  | negation a, negation b => agrees a b
  | builds e l, builds e' l' => e == e' && l == l'
  | unrecognized s, unrecognized t => s == t
  | _, _ => false
where
  /-- Lists of filters agree if they are as long and agree item by item. -/
  agreeAll : List Filter → List Filter → Bool
    | [], [] => true
    | a :: as, b :: bs => agrees a b && agreeAll as bs
    | _, _ => false

instance : BEq Filter where
  beq := agrees

/-! ## Text -/

/-- One side of a range; an open side is a star. -/
def sideText (side : Option Bound) : String :=
  (side.map Bound.text).getD "*"

/-- The text of a filter. -/
def text : Filter → String
  | literal true => "true"
  | literal false => "false"
  | all items => "(" ++ " AND ".intercalate (itemTexts items) ++ ")"
  | any items => "(" ++ " OR ".intercalate (itemTexts items) ++ ")"
  | negation item => "(NOT " ++ item.text ++ ")"
  | builds earliest latest =>
    "build in [" ++ sideText earliest ++ ", " ++ sideText latest ++ "]"
  | unrecognized s => "<unrecognized " ++ s ++ ">"
where
  /-- The texts of the items. -/
  itemTexts : List Filter → List String
    | [] => []
    | item :: items => item.text :: itemTexts items

theorem text.itemTexts_eq_map (items : List Filter) : itemTexts items = items.map text := by
  induction items with
  | nil => rfl
  | cons item items ih => rw [itemTexts, ih, List.map_cons]

end Filter

end JdkCatalog
