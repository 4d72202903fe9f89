import JdkCatalog.Proofs.BuildNumber.Order
import JdkCatalog.Proofs.Filter.Order
import JdkCatalog.Proofs.Filter.Parts

/-!
# Ranges as intervals

A range whose ends were understood is a closed interval of the order of build
numbers, with open sides where an end is absent; `between` is this range, and
`builds_cases` says that all others are obscure.

* `Within` is membership in the interval, and `le_evaluate_between_iff` ties the
  verdict to it.
* `Within.convex`, `not_within_of_lt` and `within_merge_iff` are facts about
  intervals: nothing is left out of the middle, ends in the wrong order leave
  nothing, and two intervals meet in an interval.
* `evaluate_between_interval` puts together what follows for filters.
-/

namespace JdkCatalog.Filter

variable {build : BuildNumber} {earliest latest earliest' latest' : Option BuildNumber}

/-! ## Intervals -/

/-- The range between two ends that were understood, or that are absent. -/
def between (earliest latest : Option BuildNumber) : Filter :=
  builds (earliest.map .build) (latest.map .build)

/-- The build lies between the ends, both included. -/
def Within (build : BuildNumber) (earliest latest : Option BuildNumber) : Prop :=
  (∀ b ∈ earliest, b ≤ build) ∧ ∀ b ∈ latest, build ≤ b

instance (build : BuildNumber) (earliest latest : Option BuildNumber) :
    Decidable (Within build earliest latest) :=
  inferInstanceAs (Decidable (_ ∧ _))

theorem Within.convex {first middle last : BuildNumber} (hfirst : first ≤ middle)
    (hlast : middle ≤ last) (hwithin : Within first earliest latest)
    (hwithin' : Within last earliest latest) : Within middle earliest latest :=
  ⟨fun b hb => le_trans (hwithin.1 b hb) hfirst, fun b hb => le_trans hlast (hwithin'.2 b hb)⟩

theorem not_within_of_lt {earliest latest : BuildNumber} (hlt : latest < earliest) :
    ¬ Within build (some earliest) (some latest) := by
  rintro ⟨hearliest, hlatest⟩
  exact not_le_of_gt hlt (le_trans (hearliest earliest rfl) (hlatest latest rfl))

/-- An absent end is the weakest one. -/
theorem forall_mem_merge_max_iff :
    (∀ b ∈ Option.merge max earliest earliest', b ≤ build) ↔
      (∀ b ∈ earliest, b ≤ build) ∧ ∀ b ∈ earliest', b ≤ build := by
  cases earliest <;> cases earliest' <;> simp [BuildNumber.max_le_iff]

theorem forall_mem_merge_min_iff :
    (∀ b ∈ Option.merge min latest latest', build ≤ b) ↔
      (∀ b ∈ latest, build ≤ b) ∧ ∀ b ∈ latest', build ≤ b := by
  cases latest <;> cases latest' <;> simp [BuildNumber.le_min_iff]

theorem within_merge_iff :
    Within build (Option.merge max earliest earliest') (Option.merge min latest latest') ↔
      Within build earliest latest ∧ Within build earliest' latest' := by
  rw [Within, forall_mem_merge_max_iff, forall_mem_merge_min_iff]
  exact and_and_and_comm

/-! ## Verdicts -/

theorem evaluate_between (build : BuildNumber) (earliest latest : Option BuildNumber) :
    evaluate build (between earliest latest) =
      Verdict.ofBool (decide (Within build earliest latest)) := by
  rw [between, evaluate, evaluateRange_build]
  congr 1
  cases earliest <;> cases latest <;> simp [Within, BuildNumber.le_def]

/-- A verdict other than the lowest asks the build to lie in the interval. -/
theorem le_evaluate_between_iff {v : Verdict} :
    v ≤ evaluate build (between earliest latest) ↔
      v = .fails ∨ Within build earliest latest := by
  rw [evaluate_between, Verdict.le_ofBool_iff, decide_eq_true_iff]

theorem evaluate_between_eq_holds_iff :
    evaluate build (between earliest latest) = .holds ↔ Within build earliest latest := by
  rw [evaluate_between, Verdict.ofBool_eq_holds_iff, decide_eq_true_iff]

theorem evaluate_between_eq_fails_iff :
    evaluate build (between earliest latest) = .fails ↔ ¬ Within build earliest latest := by
  rw [evaluate_between, Verdict.ofBool_eq_fails_iff, decide_eq_false_iff_not]

theorem evaluate_all_between (build : BuildNumber)
    (earliest latest earliest' latest' : Option BuildNumber) :
    evaluate build (all [between earliest latest, between earliest' latest']) =
      evaluate build (between (Option.merge max earliest earliest')
        (Option.merge min latest latest')) := by
  refine eq_of_forall_le_iff fun v => ?_
  rw [le_evaluate_all_iff (List.cons_ne_nil _ _), List.forall_mem_cons,
    List.forall_mem_singleton, le_evaluate_between_iff, le_evaluate_between_iff,
    le_evaluate_between_iff, within_merge_iff, or_and_left]

/-- A range is obscure, or it lies between ends that were understood. -/
theorem builds_cases (earliest latest : Option Bound) :
    Obscure (builds earliest latest) ∨
      ∃ earliest' latest' : Option BuildNumber,
        builds earliest latest = between earliest' latest' := by
  rcases earliest with _ | (b | text)
  · rcases latest with _ | (c | text)
    · exact .inr ⟨none, none, rfl⟩
    · exact .inr ⟨none, some c, rfl⟩
    · exact .inl (.latest _ text)
  · rcases latest with _ | (c | text)
    · exact .inr ⟨some b, none, rfl⟩
    · exact .inr ⟨some b, some c, rfl⟩
    · exact .inl (.latest _ text)
  · exact .inl (.earliest text latest)

/-! ## The result -/

/-- The order of build numbers is the lexicographic one of their components,
where a proper part at the start comes first.  In this order a range between
ends that were understood holds on the builds between them, both included, and
fails on all others; it leaves out nothing between two builds on which it
holds, and it fails on every build if its ends are in the wrong order.  Two
ranges hold together where the range from the later start to the earlier end
does.  A range with a malformed end is undecided, whatever the other end
says. -/
theorem evaluate_between_interval :
    (∀ a b : BuildNumber,
      (a ≤ b ↔ a.components = b.components ∨ a.Precedes b) ∧ (a < b ↔ a.Precedes b)) ∧
    (∀ (build : BuildNumber) (earliest latest : Option BuildNumber),
      (evaluate build (between earliest latest) = .holds ↔
          (∀ b ∈ earliest, b ≤ build) ∧ ∀ b ∈ latest, build ≤ b) ∧
        (evaluate build (between earliest latest) = .fails ↔
          ¬ ((∀ b ∈ earliest, b ≤ build) ∧ ∀ b ∈ latest, build ≤ b))) ∧
    (∀ (earliest latest : Option BuildNumber) (first middle last : BuildNumber),
      first ≤ middle → middle ≤ last →
      evaluate first (between earliest latest) = .holds →
      evaluate last (between earliest latest) = .holds →
      evaluate middle (between earliest latest) = .holds) ∧
    (∀ build earliest latest : BuildNumber, latest < earliest →
      evaluate build (between (some earliest) (some latest)) = .fails) ∧
    (∀ (build : BuildNumber) (earliest latest earliest' latest' : Option BuildNumber),
      evaluate build (all [between earliest latest, between earliest' latest']) =
        evaluate build (between (Option.merge max earliest earliest')
          (Option.merge min latest latest'))) ∧
    (∀ (build : BuildNumber) (text : String) (bound : Option Bound),
      evaluate build (builds (some (.malformed text)) bound) = .unknown ∧
        evaluate build (builds bound (some (.malformed text))) = .unknown) := by
  refine ⟨fun _ _ => ⟨BuildNumber.le_iff, BuildNumber.lt_iff⟩,
    fun _ _ _ => ⟨evaluate_between_eq_holds_iff, evaluate_between_eq_fails_iff⟩,
    fun earliest latest first middle last hfirst hlast hholds hholds' => ?convex,
    fun build earliest latest hlt => ?reversed, evaluate_all_between,
    fun build text bound => ⟨(Obscure.earliest text bound).evaluate_eq build,
      (Obscure.latest bound text).evaluate_eq build⟩⟩
  case convex =>
    rw [evaluate_between_eq_holds_iff] at hholds hholds' ⊢
    exact hholds.convex hfirst hlast hholds'
  case reversed =>
    exact evaluate_between_eq_fails_iff.mpr (not_within_of_lt hlt)

/-- The builds `203`, `203.1` and `203.SNAPSHOT` in a range up to the last of
them, and in one with the ends exchanged. -/
theorem evaluate_between_snapshots :
    let release : BuildNumber := ⟨none, [203], by decide⟩
    let update : BuildNumber := ⟨none, [203, 1], by decide⟩
    let unfixed : BuildNumber := ⟨none, [203, BuildNumber.snapshot], by decide⟩
    release ≤ update ∧ update ≤ unfixed ∧
      evaluate release (between (some release) (some unfixed)) = .holds ∧
      evaluate unfixed (between (some release) (some unfixed)) = .holds ∧
      evaluate update (between (some release) (some unfixed)) = .holds ∧
      release < unfixed ∧
      evaluate update (between (some unfixed) (some release)) = .fails := by
  intro release update unfixed
  obtain ⟨-, -, hconvex, hreversed, -⟩ := evaluate_between_interval
  have hrelease : release ≤ update := by decide
  have hunfixed : update ≤ unfixed := by decide
  have hlt : release < unfixed := lt_iff_le_not_ge.mpr ⟨by decide, by decide⟩
  have hholds : evaluate release (between (some release) (some unfixed)) = .holds := by decide
  have hholds' : evaluate unfixed (between (some release) (some unfixed)) = .holds := by decide
  exact ⟨hrelease, hunfixed, hholds, hholds',
    hconvex _ _ release update unfixed hrelease hunfixed hholds hholds', hlt,
    hreversed update unfixed release hlt⟩

end JdkCatalog.Filter
