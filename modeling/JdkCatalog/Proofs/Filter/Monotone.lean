import JdkCatalog.Proofs.Filter.Interval
import Mathlib.Algebra.Ring.Parity

/-!
# Filters and the order of builds

A range with only an earliest build holds from there on, and one with only a
latest build holds up to there.  A negation turns this around, and the other
nodes do not care.  So it depends on the parity of the negations above the
ranges whether the verdict on a filter rises or falls with the build.

* `Rising` and `Falling` are the two kinds of filters, and
  `rising_negation_iff` and `falling_negation_iff` go from one to the other.
* `evaluate_le_evaluate` is the result, for both kinds at once, since the
  induction needs each for the other.
-/

namespace JdkCatalog.Filter

variable {build build' : BuildNumber} {items : List Filter}

/-! ## Filters that rise, and filters that fall -/

/-- A range that was understood has one end at most, and that at a depth where
such an end may be.  All other nodes may be anywhere. -/
structure OneEnded (lower upper : Nat → Prop) (depth : Nat) (part : Filter) : Prop where
  lower_of_eq : ∀ b, part = between (some b) none → lower depth
  upper_of_eq : ∀ b, part = between none (some b) → upper depth
  ne_between : ∀ b c, part ≠ between (some b) (some c)

/-- Ranges from some build on are below an even number of negations, ranges up
to some build below an odd number, and none has two ends. -/
def Rising (filter : Filter) : Prop :=
  Everywhere (OneEnded Even Odd) filter

/-- Ranges from some build on are below an odd number of negations, ranges up
to some build below an even number, and none has two ends. -/
def Falling (filter : Filter) : Prop :=
  Everywhere (OneEnded Odd Even) filter

theorem OneEnded.imp {lower upper lower' upper' : Nat → Prop} {depth depth' : Nat} {part : Filter}
    (hlower : lower depth → lower' depth') (hupper : upper depth → upper' depth')
    (h : OneEnded lower upper depth part) : OneEnded lower' upper' depth' part :=
  ⟨fun b hb => hlower (h.lower_of_eq b hb), fun b hb => hupper (h.upper_of_eq b hb),
    h.ne_between⟩

theorem even_succ_iff {depth : Nat} : Even (depth + 1) ↔ Odd depth := by
  rw [Nat.even_add_one, Nat.not_even_iff_odd]

theorem odd_succ_iff {depth : Nat} : Odd (depth + 1) ↔ Even depth := by
  rw [Nat.odd_add_one, Nat.not_odd_iff_even]

/-- A negation is no range. -/
theorem oneEnded_negation {lower upper : Nat → Prop} {depth : Nat} {item : Filter} :
    OneEnded lower upper depth (negation item) :=
  ⟨nofun, nofun, nofun⟩

theorem everywhere_oneEnded_negation_iff {lower upper lower' upper' : Nat → Prop} {item : Filter}
    (hlower : ∀ {depth}, lower (depth + 1) ↔ lower' depth)
    (hupper : ∀ {depth}, upper (depth + 1) ↔ upper' depth) :
    Everywhere (OneEnded lower upper) (negation item) ↔
      Everywhere (OneEnded lower' upper') item := by
  rw [everywhere_negation_iff]
  constructor
  · intro h depth part hpart
    exact (h.2 depth part hpart).imp hlower.mp hupper.mp
  · intro h
    refine ⟨oneEnded_negation, fun depth part hpart => ?_⟩
    exact (h depth part hpart).imp hlower.mpr hupper.mpr

theorem rising_negation_iff {item : Filter} : Rising (negation item) ↔ Falling item :=
  everywhere_oneEnded_negation_iff even_succ_iff odd_succ_iff

theorem falling_negation_iff {item : Filter} : Falling (negation item) ↔ Rising item :=
  everywhere_oneEnded_negation_iff odd_succ_iff even_succ_iff

/-! ## Ranges -/

/-- A range below no negation may have an earliest build, and no latest one. -/
theorem OneEnded.latest_eq_none {earliest latest : Option BuildNumber}
    (h : OneEnded Even Odd 0 (between earliest latest)) : latest = none := by
  rcases latest with _ | c
  · rfl
  rcases earliest with _ | b
  · exact absurd (h.upper_of_eq c rfl) (by decide)
  · exact absurd rfl (h.ne_between b c)

theorem OneEnded.earliest_eq_none {earliest latest : Option BuildNumber}
    (h : OneEnded Odd Even 0 (between earliest latest)) : earliest = none := by
  rcases earliest with _ | b
  · rfl
  rcases latest with _ | c
  · exact absurd (h.lower_of_eq b rfl) (by decide)
  · exact absurd rfl (h.ne_between b c)

theorem evaluate_between_le {earliest latest : Option BuildNumber}
    (h : Within build earliest latest → Within build' earliest latest) :
    evaluate build (between earliest latest) ≤ evaluate build' (between earliest latest) :=
  le_evaluate_between_iff.mpr ((le_evaluate_between_iff.mp le_rfl).imp_right h)

theorem evaluate_builds_le (hle : build ≤ build') (earliest latest : Option Bound) :
    (OneEnded Even Odd 0 (builds earliest latest) →
      evaluate build (builds earliest latest) ≤ evaluate build' (builds earliest latest)) ∧
    (OneEnded Odd Even 0 (builds earliest latest) →
      evaluate build' (builds earliest latest) ≤ evaluate build (builds earliest latest)) := by
  obtain hobscure | ⟨earliest, latest, hends⟩ := builds_cases earliest latest
  · rw [hobscure.evaluate_eq, hobscure.evaluate_eq]
    exact ⟨fun _ => le_rfl, fun _ => le_rfl⟩
  rw [hends]
  constructor
  · intro h
    obtain rfl := h.latest_eq_none
    exact evaluate_between_le fun hwithin => ⟨fun b hb => le_trans (hwithin.1 b hb) hle, nofun⟩
  · intro h
    obtain rfl := h.earliest_eq_none
    exact evaluate_between_le fun hwithin => ⟨nofun, fun b hb => le_trans hle (hwithin.2 b hb)⟩

/-! ## Trees -/

theorem evaluate_all_mono
    (h : ∀ item ∈ items, evaluate build item ≤ evaluate build' item) :
    evaluate build (all items) ≤ evaluate build' (all items) := by
  by_cases hitems : items = []
  · subst hitems
    exact le_rfl
  rw [le_evaluate_all_iff hitems]
  intro item hmem
  exact ((le_evaluate_all_iff hitems).mp le_rfl item hmem).trans (h item hmem)

theorem evaluate_any_mono
    (h : ∀ item ∈ items, evaluate build item ≤ evaluate build' item) :
    evaluate build (any items) ≤ evaluate build' (any items) := by
  rw [evaluate_any_le_iff]
  intro item hmem
  exact (h item hmem).trans (evaluate_any_le_iff.mp le_rfl item hmem)

/-- On a later build the verdict on a rising filter is no lower, and the verdict
on a falling filter no higher. -/
theorem evaluate_le_evaluate (hle : build ≤ build') (filter : Filter) :
    (Rising filter → evaluate build filter ≤ evaluate build' filter) ∧
      (Falling filter → evaluate build' filter ≤ evaluate build filter) := by
  induction filter using partInduction with
  | literal value => exact ⟨fun _ => le_rfl, fun _ => le_rfl⟩
  | all items ih =>
    constructor
    · intro h
      have hitems := (everywhere_all_iff.mp h).2
      exact evaluate_all_mono fun item hmem => (ih item hmem).1 (hitems item hmem)
    · intro h
      have hitems := (everywhere_all_iff.mp h).2
      exact evaluate_all_mono fun item hmem => (ih item hmem).2 (hitems item hmem)
  | any items ih =>
    constructor
    · intro h
      have hitems := (everywhere_any_iff.mp h).2
      exact evaluate_any_mono fun item hmem => (ih item hmem).1 (hitems item hmem)
    · intro h
      have hitems := (everywhere_any_iff.mp h).2
      exact evaluate_any_mono fun item hmem => (ih item hmem).2 (hitems item hmem)
  | negation item ih =>
    -- A negation rises if its item falls, and the other way round.
    constructor
    · intro h
      exact Verdict.not_le_not_iff.mpr (ih.2 (rising_negation_iff.mp h))
    · intro h
      exact Verdict.not_le_not_iff.mpr (ih.1 (falling_negation_iff.mp h))
  | builds earliest latest =>
    have hrange := evaluate_builds_le hle earliest latest
    exact ⟨fun h => hrange.1 h.root, fun h => hrange.2 h.root⟩
  | unrecognized text => exact ⟨fun _ => le_rfl, fun _ => le_rfl⟩

end JdkCatalog.Filter
