/-!
# Verdicts

A condition on a build holds, fails, or cannot be decided because part of it
was not understood.  `and`, `or` and `not` are the strong three-valued
connectives: an undecided operand matters only where the decided one leaves
the result open.
-/

namespace JdkCatalog

/-- The outcome of a condition. -/
inductive Verdict where
  | holds
  | fails
  | unknown
deriving DecidableEq

namespace Verdict

/-- The verdict of a condition that was decided. -/
def ofBool : Bool → Verdict
  | true => holds
  | false => fails

/-- A failing operand decides a conjunction. -/
def and : Verdict → Verdict → Verdict
  | fails, _ => fails
  | _, fails => fails
  | holds, holds => holds
  | _, _ => unknown

/-- A holding operand decides a disjunction. -/
def or : Verdict → Verdict → Verdict
  | holds, _ => holds
  | _, holds => holds
  | fails, fails => fails
  | _, _ => unknown

/-- Negation keeps what is undecided undecided. -/
def not : Verdict → Verdict
  | holds => fails
  | fails => holds
  | unknown => unknown

/-- The word for a verdict. -/
def text : Verdict → String
  | holds => "true"
  | fails => "false"
  | unknown => "unknown"

@[simp] theorem not_not (v : Verdict) : v.not.not = v := by
  cases v <;> rfl

theorem and_comm (v w : Verdict) : v.and w = w.and v := by
  cases v <;> cases w <;> rfl

theorem or_comm (v w : Verdict) : v.or w = w.or v := by
  cases v <;> cases w <;> rfl

theorem and_assoc (u v w : Verdict) : (u.and v).and w = u.and (v.and w) := by
  cases u <;> cases v <;> cases w <;> rfl

theorem or_assoc (u v w : Verdict) : (u.or v).or w = u.or (v.or w) := by
  cases u <;> cases v <;> cases w <;> rfl

theorem not_and (v w : Verdict) : (v.and w).not = v.not.or w.not := by
  cases v <;> cases w <;> rfl

end Verdict

end JdkCatalog
