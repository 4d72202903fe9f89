import JdkCatalog.BuildNumber
import Mathlib.Order.Defs.PartialOrder

/-!
# Equality and order of build numbers

Build numbers are equal if their components are, whatever their codes.  This
module says that order and hashing see the same, and what the order is.

* `compare_eq_eq_iff` and `hashed_eq_iff` bring both back to the components.
* `Precedes` is the lexicographic order in its own terms, and
  `compare_eq_lt_iff` says that it is the one that is computed.
* `OrderLaws` puts all of this together for any three build numbers.
* `a ≤ b` is the same order as a relation, in the words of `le_iff` and
  `lt_iff`, with the later and the earlier of two build numbers as `max` and
  `min`.
-/

namespace JdkCatalog.BuildNumber

/-! ## Equality and hashing -/

instance : EquivBEq BuildNumber where
  rfl := beq_iff.mpr rfl
  symm h := beq_iff.mpr (beq_iff.mp h).symm
  trans h h' := beq_iff.mpr ((beq_iff.mp h).trans (beq_iff.mp h'))

theorem compare_eq_eq_iff {a b : BuildNumber} :
    compare a b = .eq ↔ a.components = b.components := by
  rw [compare_def, Std.compare_eq_iff_eq]

instance : LawfulHashable BuildNumber where
  hash_eq a b h := by
    change hash a.components = hash b.components
    rw [beq_iff.mp h]

theorem componentBytes_inj {n m : UInt32} (h : componentBytes n = componentBytes m) : n = m := by
  simp only [componentBytes, List.cons.injEq, and_true, ← UInt8.toNat_inj, UInt32.toNat_toUInt8,
    UInt32.toNat_shiftRight, UInt32.reduceToNat, Nat.reduceMod, Nat.shiftRight_eq_div_pow,
    Nat.reducePow] at h
  obtain ⟨h0, h8, h16, h24⟩ := h
  have hn := n.toNat_lt
  have hm := m.toNat_lt
  apply UInt32.toNat_inj.mp
  omega

theorem flatMap_componentBytes_inj {ns ms : List UInt32}
    (h : ns.flatMap componentBytes = ms.flatMap componentBytes) : ns = ms := by
  induction ns generalizing ms with
  | nil =>
    cases ms with
    | nil => rfl
    | cons m ms => simp [componentBytes] at h
  | cons n ns ih =>
    cases ms with
    | nil => simp [componentBytes] at h
    | cons m ms =>
      rw [List.flatMap_cons, List.flatMap_cons] at h
      obtain ⟨hfirst, hrest⟩ := List.append_inj h rfl
      rw [componentBytes_inj hfirst, ih hrest]

theorem hashed_eq_iff {a b : BuildNumber} : a.hashed = b.hashed ↔ a.components = b.components := by
  constructor
  · intro h
    exact flatMap_componentBytes_inj (Prod.mk.inj h).2
  · intro h
    rw [hashed, hashed, h]

/-! ## The order -/

/-- The first list is a proper part of the second at its start, or else the
first components that differ are in this order. -/
def PrecedesIn (ns ms : List UInt32) : Prop :=
  (∃ rest, rest ≠ [] ∧ ms = ns ++ rest) ∨
    ∃ shared n m after after', ns = shared ++ n :: after ∧ ms = shared ++ m :: after' ∧ n < m

theorem precedesIn_nil_cons (m : UInt32) (ms : List UInt32) : PrecedesIn [] (m :: ms) :=
  .inl ⟨m :: ms, List.cons_ne_nil m ms, rfl⟩

theorem not_precedesIn_nil (ns : List UInt32) : ¬ PrecedesIn ns [] := by
  rintro (⟨rest, hrest, hnil⟩ | ⟨shared, n, m, after, after', -, hnil, -⟩)
  · exact hrest (List.append_eq_nil_iff.mp hnil.symm).2
  · exact List.cons_ne_nil m after' (List.append_eq_nil_iff.mp hnil.symm).2

theorem precedesIn_cons_cons {n m : UInt32} {ns ms : List UInt32} :
    PrecedesIn (n :: ns) (m :: ms) ↔ n < m ∨ n = m ∧ PrecedesIn ns ms := by
  constructor
  · rintro (⟨rest, hrest, heq⟩ | ⟨shared, k, l, after, after', hns, hms, hlt⟩)
    · obtain ⟨rfl, rfl⟩ := List.cons.inj heq
      exact .inr ⟨rfl, .inl ⟨rest, hrest, rfl⟩⟩
    · cases shared with
      | nil =>
        cases hns
        cases hms
        exact .inl hlt
      | cons x shared =>
        obtain ⟨rfl, rfl⟩ := List.cons.inj hns
        obtain ⟨rfl, rfl⟩ := List.cons.inj hms
        exact .inr ⟨rfl, .inr ⟨shared, k, l, after, after', rfl, rfl, hlt⟩⟩
  · rintro (hlt | ⟨rfl, ⟨rest, hrest, rfl⟩ | ⟨shared, k, l, after, after', rfl, rfl, hlt⟩⟩)
    · exact .inr ⟨[], n, m, ns, ms, rfl, rfl, hlt⟩
    · exact .inl ⟨rest, hrest, rfl⟩
    · exact .inr ⟨n :: shared, k, l, after, after', rfl, rfl, hlt⟩

theorem compareLex_eq_lt_iff {ns ms : List UInt32} :
    ns.compareLex compare ms = .lt ↔ PrecedesIn ns ms := by
  induction ns generalizing ms with
  | nil =>
    cases ms with
    | nil => exact iff_of_false (by decide) (not_precedesIn_nil [])
    | cons m ms => exact iff_of_true List.compareLex_nil_cons (precedesIn_nil_cons m ms)
  | cons n ns ih =>
    cases ms with
    | nil =>
      rw [List.compareLex_cons_nil]
      exact iff_of_false (by decide) (not_precedesIn_nil (n :: ns))
    | cons m ms =>
      rw [List.compareLex_cons_cons, Ordering.then_eq_lt, ih, precedesIn_cons_cons,
        Std.compare_eq_iff_eq]
      exact or_congr_left compareOfLessAndEq_eq_lt

/-- One build number precedes another in the lexicographic order of their
components. -/
def Precedes (a b : BuildNumber) : Prop :=
  PrecedesIn a.components b.components

theorem compare_eq_lt_iff {a b : BuildNumber} : compare a b = .lt ↔ a.Precedes b := by
  rw [compare_def, List.compare_eq_compareLex, compareLex_eq_lt_iff]
  rfl

/-- How equality, order and hashing of build numbers go together. -/
structure OrderLaws (a b c : BuildNumber) : Prop where
  /-- The components decide on equality, -/
  beq_iff : (a == b) = true ↔ a.components = b.components
  /-- and so they do on having the same place in the order, -/
  compare_eq_iff : compare a b = .eq ↔ a.components = b.components
  /-- and on giving the same to a hasher. -/
  hashed_eq_iff : a.hashed = b.hashed ↔ a.components = b.components
  hash_eq : (a == b) = true → hash a = hash b
  refl : compare a a = .eq
  swap : compare b a = (compare a b).swap
  antisymm : compare a b ≠ .gt → compare b a ≠ .gt → (a == b) = true
  trans : compare a b ≠ .gt → compare b c ≠ .gt → compare a c ≠ .gt
  total : compare a b ≠ .gt ∨ compare b a ≠ .gt
  /-- The order is the lexicographic one, where a proper part at the start comes
  first. -/
  lt_iff : compare a b = .lt ↔ a.Precedes b

theorem orderLaws (a b c : BuildNumber) : OrderLaws a b c := by
  have hswap : compare b a = (compare a b).swap := Std.OrientedCmp.eq_swap
  refine {
    beq_iff := beq_iff
    compare_eq_iff := compare_eq_eq_iff
    hashed_eq_iff := hashed_eq_iff
    hash_eq := fun h => LawfulHashable.hash_eq a b h
    refl := Std.ReflCmp.compare_self
    swap := hswap
    antisymm := ?antisymm
    trans := ?trans
    total := ?total
    lt_iff := compare_eq_lt_iff }
  case antisymm =>
    intro hab hba
    rw [beq_iff, ← compare_eq_eq_iff]
    rw [hswap] at hba
    cases h : compare a b with
    | eq => rfl
    | lt => rw [h] at hba; exact absurd rfl hba
    | gt => exact absurd h hab
  case trans =>
    intro hab hbc
    exact Ordering.ne_gt_iff_isLE.mpr (Std.TransCmp.isLE_trans
      (Ordering.ne_gt_iff_isLE.mp hab) (Ordering.ne_gt_iff_isLE.mp hbc))
  case total =>
    rw [hswap]
    cases compare a b <;> decide

/-! ## The order as a relation -/

instance : LE BuildNumber where
  le a b := (compare a b).isLE = true

instance : DecidableLE BuildNumber := fun a b =>
  inferInstanceAs (Decidable ((compare a b).isLE = true))

instance : Preorder BuildNumber where
  le_refl _ := Std.ReflCmp.isLE_rfl
  le_trans _ _ _ := Std.TransCmp.isLE_trans

theorem le_def {a b : BuildNumber} : a ≤ b ↔ (compare a b).isLE = true :=
  Iff.rfl

theorem le_total (a b : BuildNumber) : a ≤ b ∨ b ≤ a := by
  rw [le_def, le_def, ← Ordering.ne_gt_iff_isLE, ← Ordering.ne_gt_iff_isLE]
  exact (orderLaws a b a).total

theorem le_iff {a b : BuildNumber} : a ≤ b ↔ a.components = b.components ∨ a.Precedes b := by
  rw [le_def, Ordering.isLE_iff_eq_lt_or_eq_eq, or_comm, compare_eq_eq_iff, compare_eq_lt_iff]

theorem lt_iff {a b : BuildNumber} : a < b ↔ a.Precedes b := by
  have hswap : compare b a = (compare a b).swap := Std.OrientedCmp.eq_swap
  rw [← compare_eq_lt_iff, lt_iff_le_not_ge, le_def, le_def, hswap]
  cases compare a b <;> decide

instance : Max BuildNumber := maxOfLe

instance : Min BuildNumber := minOfLe

/-- A bound is above the later of two build numbers if it is above both. -/
theorem max_le_iff {a b c : BuildNumber} : max a b ≤ c ↔ a ≤ c ∧ b ≤ c := by
  change (if a ≤ b then b else a) ≤ c ↔ a ≤ c ∧ b ≤ c
  split
  case isTrue hab => exact ⟨fun hb => ⟨le_trans hab hb, hb⟩, And.right⟩
  case isFalse hab =>
    have hba : b ≤ a := (le_total a b).resolve_left hab
    exact ⟨fun ha => ⟨ha, le_trans hba ha⟩, And.left⟩

/-- A bound is below the earlier of two build numbers if it is below both. -/
theorem le_min_iff {a b c : BuildNumber} : c ≤ min a b ↔ c ≤ a ∧ c ≤ b := by
  change c ≤ (if a ≤ b then a else b) ↔ c ≤ a ∧ c ≤ b
  split
  case isTrue hab => exact ⟨fun ha => ⟨ha, le_trans ha hab⟩, And.left⟩
  case isFalse hab =>
    have hba : b ≤ a := (le_total a b).resolve_left hab
    exact ⟨fun hb => ⟨le_trans hb hba, hb⟩, And.right⟩

end JdkCatalog.BuildNumber
