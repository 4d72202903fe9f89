/-!
# Cancellation

Flags by which an operation can be told to stop.  A flag that is cloned from
another one belongs to its family, and a family is canceled as a whole and
for good.
-/

namespace JdkCatalog.Feed

/-- An operation was told to stop. -/
structure Canceled where
deriving DecidableEq

/-- The wording of the error. -/
def Canceled.message (_ : Canceled) : String :=
  "operation canceled"

/-- Flags, by their number in the order in which they came to be. -/
structure CancelFlags where
  /-- The family of each flag. -/
  families : List Nat
  /-- For each family, whether it has been canceled. -/
  canceled : List Bool
  /-- Every flag has a family. -/
  family_lt : ∀ family ∈ families, family < canceled.length

namespace CancelFlags

/-- No flags. -/
def empty : CancelFlags :=
  ⟨[], [], by simp⟩

/-- Makes a flag with a family of its own. -/
def create (flags : CancelFlags) : CancelFlags where
  families := flags.families ++ [flags.canceled.length]
  canceled := flags.canceled ++ [false]
  family_lt family h := by
    rw [List.length_append, List.length_singleton]
    rcases List.mem_append.mp h with h | h
    · exact Nat.lt_succ_of_lt (flags.family_lt family h)
    · rw [List.mem_singleton.mp h]
      exact Nat.lt_succ_self _

/-- Makes a flag of the family of an earlier one. -/
def clone (flags : CancelFlags) (i : Nat) : CancelFlags where
  families := flags.families ++ flags.families[i]?.toList
  canceled := flags.canceled
  family_lt family h := by
    rcases List.mem_append.mp h with h | h
    · exact flags.family_lt family h
    · exact flags.family_lt family (List.mem_of_getElem? (Option.mem_toList.mp h))

/-- Cancels the family of a flag. -/
def cancel (flags : CancelFlags) (i : Nat) : CancelFlags where
  families := flags.families
  canceled :=
    match flags.families[i]? with
    | some family => flags.canceled.set family true
    | none => flags.canceled
  family_lt family h := by
    have hlt := flags.family_lt family h
    split
    · rw [List.length_set]
      exact hlt
    · exact hlt

/-- A family has been canceled. -/
def isFamilyCanceled (flags : CancelFlags) (family : Nat) : Bool :=
  flags.canceled.getD family false

/-- A flag has been canceled. -/
def isCanceled (flags : CancelFlags) (i : Nat) : Bool :=
  match flags.families[i]? with
  | some family => flags.isFamilyCanceled family
  | none => false

/-- What all flags say. -/
def states (flags : CancelFlags) : List Bool :=
  flags.families.map flags.isFamilyCanceled

/-- Goes on unless a flag has been canceled. -/
def check (flags : CancelFlags) (i : Nat) : Except Canceled Unit :=
  if flags.isCanceled i then .error {} else .ok ()

end CancelFlags

end JdkCatalog.Feed
