/-!
# Build numbers

A build number is a sequence of numbers such as `203.5981.155`, possibly
after a product code (`IU-203.5981`).  Equality, order and hashing look at
the numbers alone: the order is lexicographic and a proper prefix comes
first.  The largest 32-bit number stands for a component that has not been
fixed yet and is written `SNAPSHOT`.
-/

namespace JdkCatalog

/-- The letters before the dash of a build number, such as `IU`. -/
structure ProductCode where
  /-- The letters. -/
  text : String
  /-- There is a letter. -/
  text_ne_empty : text ≠ ""
  /-- There are only ASCII letters. -/
  isAlpha_of_mem : ∀ c ∈ text.toList, c.isAlpha = true
deriving DecidableEq

/-- The code with these letters, if they can be a code. -/
def ProductCode.ofText? (text : String) : Option ProductCode :=
  if h : text ≠ "" ∧ text.toList.all Char.isAlpha = true then
    some ⟨text, h.1, List.all_eq_true.mp h.2⟩
  else
    none

theorem ProductCode.ofText?_eq_some_iff {text : String} {code : ProductCode} :
    ofText? text = some code ↔ code.text = text := by
  constructor
  · intro h
    unfold ofText? at h
    split at h
    · cases h
      rfl
    · contradiction
  · rintro rfl
    exact dif_pos ⟨code.text_ne_empty, List.all_eq_true.mpr code.isAlpha_of_mem⟩

/-- A build number has at least one component. -/
structure BuildNumber where
  /-- The product that the build is of, where it is named. -/
  productCode : Option ProductCode
  /-- The numbers, most significant first. -/
  components : List UInt32
  /-- There is a number. -/
  components_ne_nil : components ≠ []

namespace BuildNumber

/-- The component that stands for a number not fixed yet. -/
def snapshot : UInt32 := 0xffffffff

/-- What is wrong with a list that should become a build number. -/
inductive ComponentsError where
  | noComponent

/-- The wording of an error. -/
def ComponentsError.message : ComponentsError → String
  | noComponent => "build number needs at least one component"

/-- The build number with these components and no product code. -/
def ofComponents : List UInt32 → Except ComponentsError BuildNumber
  | [] => .error .noComponent
  | n :: ns => .ok ⟨none, n :: ns, List.cons_ne_nil n ns⟩

/-- The most significant component. -/
def baseline (b : BuildNumber) : UInt32 :=
  b.components.head b.components_ne_nil

/-- Some component is not fixed yet. -/
def isSnapshot (b : BuildNumber) : Bool :=
  b.components.contains snapshot

instance : BEq BuildNumber where
  beq a b := a.components == b.components

/-- A number as four bytes, the lowest first. -/
def componentBytes (n : UInt32) : List UInt8 :=
  [n.toUInt8, (n >>> 8).toUInt8, (n >>> 16).toUInt8, (n >>> 24).toUInt8]

/-- What a build number gives to a hasher: how many components there are, and
then their bytes. -/
def hashed (b : BuildNumber) : Nat × List UInt8 :=
  (b.components.length, b.components.flatMap componentBytes)

instance : Hashable BuildNumber where
  hash b := hash b.components

instance : Ord BuildNumber where
  compare a b := compare a.components b.components

theorem beq_iff {a b : BuildNumber} : (a == b) = true ↔ a.components = b.components :=
  beq_iff_eq (α := List UInt32)

theorem compare_def (a b : BuildNumber) : compare a b = compare a.components b.components :=
  rfl

instance : Std.TransOrd BuildNumber :=
  inferInstanceAs (Std.TransCmp (compareOn components))

/-! ## Writing -/

/-- A component as it is written. -/
def componentText (n : UInt32) : String :=
  if n = snapshot then "SNAPSHOT" else n.toNat.repr

/-- The code and a dash, if there is a code; then the components between
dots. -/
def text (b : BuildNumber) : String :=
  (b.productCode.map (·.text ++ "-")).getD "" ++
    ".".intercalate (b.components.map componentText)

end BuildNumber

end JdkCatalog
