import JdkCatalog.Feed.Cancellation
import Mathlib.Data.List.Basic
import Mathlib.Data.List.Induction
import Mathlib.Logic.Relation

/-!
# Cancellation by families

Flags hold the number of a cell, and what is canceled is a cell.  This module says
what that comes to for a program that makes, clones, cancels and asks flags in any
order.  A family is told from the history alone: it is what one `create` and the
clones of it, and of clones of it, have made.

* `Operation` and `run` are the histories of flags.
* `Created`, `Cloned`, `SameFamily` and `FamilyCanceled` read a history without
  running it.  All come down to what `Occurs` in it, and `occurs_concat_iff` says what
  one more operation adds to that.
* `Represents` is the invariant: each flag made on its own has its own cell, a clone
  has the cell of its original, and a cell is canceled if a flag that holds it was
  told to.  `represents_after` is the step and `represents_run` the run.
* `sameFamily_iff` says that a family is a cell, and `cancellation_by_family` what
  follows for the answers of flags.
-/

namespace JdkCatalog.Feed.CancelFlags

/-! ## Histories -/

/-- What a program can do with flags, which it names by their numbers. -/
inductive Operation where
  | create
  | clone (i : Nat)
  | cancel (i : Nat)
  /-- Whether the flag has been canceled. -/
  | ask (i : Nat)
  /-- Whether to go on. -/
  | check (i : Nat)
deriving DecidableEq

/-- The flags after an operation. -/
def after (flags : CancelFlags) : Operation → CancelFlags
  | .create => flags.create
  | .clone i => flags.clone i
  | .cancel i => flags.cancel i
  | .ask _ => flags
  | .check _ => flags

/-- The flags after a history, which starts without flags. -/
def run (history : List Operation) : CancelFlags :=
  history.foldl after empty

theorem run_concat (history : List Operation) (op : Operation) :
    run (history ++ [op]) = (run history).after op :=
  List.foldl_concat _ _ _ _

/-- How many flags an operation makes where there are `n`.  There is no clone of a
flag that is not there. -/
def Operation.made (n : Nat) : Operation → Nat
  | .create => 1
  | .clone i => if i < n then 1 else 0
  | _ => 0

/-- How many flags there are after a history. -/
def count (history : List Operation) : Nat :=
  history.foldl (fun n op => n + op.made n) 0

theorem count_concat (history : List Operation) (op : Operation) :
    count (history ++ [op]) = count history + op.made (count history) :=
  List.foldl_concat _ _ _ _

/-! ## What a history says of families -/

/-- The operation stands in the history, after one that meets the condition. -/
def Occurs (op : Operation) (condition : List Operation → Prop) (history : List Operation) :
    Prop :=
  ∃ before rest, history = before ++ op :: rest ∧ condition before

theorem not_occurs_nil {op : Operation} {condition : List Operation → Prop} :
    ¬ Occurs op condition [] := by
  rintro ⟨before, rest, heq, -⟩
  simp at heq

theorem occurs_concat_iff {op last : Operation} {condition : List Operation → Prop}
    {history : List Operation} :
    Occurs op condition (history ++ [last]) ↔
      Occurs op condition history ∨ last = op ∧ condition history := by
  constructor
  · rintro ⟨before, rest, heq, hbefore⟩
    rcases List.eq_nil_or_concat' rest with rfl | ⟨rest, other, rfl⟩
    · obtain ⟨rfl, hlast⟩ := List.append_inj' heq rfl
      exact .inr ⟨List.head_eq_of_cons_eq hlast, hbefore⟩
    · rw [← List.cons_append, ← List.append_assoc] at heq
      exact .inl ⟨before, rest, (List.append_inj' heq rfl).1, hbefore⟩
  · rintro (⟨before, rest, rfl, hbefore⟩ | ⟨rfl, hhistory⟩)
    · exact ⟨before, rest ++ [last], by simp, hbefore⟩
    · exact ⟨history, [], rfl, hhistory⟩

/-- The flag was made on its own. -/
def Created (history : List Operation) (k : Nat) : Prop :=
  Occurs .create (fun before => count before = k) history

/-- The flag `k` was cloned from the flag `i`. -/
def Cloned (history : List Operation) (i k : Nat) : Prop :=
  Occurs (.clone i) (fun before => i < count before ∧ count before = k) history

/-- The flag goes back to one that was made on its own, by clones. -/
def StemsFrom (history : List Operation) (origin k : Nat) : Prop :=
  Created history origin ∧ Relation.ReflTransGen (Cloned history) origin k

/-- The two flags go back to the same one. -/
def SameFamily (history : List Operation) (i j : Nat) : Prop :=
  ∃ origin, StemsFrom history origin i ∧ StemsFrom history origin j

/-- A flag of the family has been told to cancel. -/
def FamilyCanceled (history : List Operation) (j : Nat) : Prop :=
  ∃ i, Occurs (.cancel i) (fun before => i < count before) history ∧ SameFamily history i j

theorem StemsFrom.concat {history : List Operation} {origin k : Nat}
    (h : StemsFrom history origin k) (op : Operation) : StemsFrom (history ++ [op]) origin k := by
  refine ⟨occurs_concat_iff.mpr (.inl h.1), Relation.ReflTransGen.mono ?_ _ _ h.2⟩
  intro i k hclone
  exact occurs_concat_iff.mpr (.inl hclone)

theorem count_le_append (before rest : List Operation) : count before ≤ count (before ++ rest) := by
  induction rest using List.reverseRecOn with
  | nil => simp
  | append_singleton rest op ih =>
    rw [← List.append_assoc, count_concat]
    omega

theorem Occurs.exists_count_le {op : Operation} {condition : List Operation → Prop}
    {history : List Operation} (h : Occurs op condition history) :
    ∃ before, condition before ∧ count before + op.made (count before) ≤ count history := by
  obtain ⟨before, rest, rfl, hbefore⟩ := h
  refine ⟨before, hbefore, ?_⟩
  have hle := count_le_append (before ++ [op]) rest
  rwa [count_concat, List.append_assoc] at hle

theorem Created.lt_count {history : List Operation} {k : Nat} (h : Created history k) :
    k < count history := by
  obtain ⟨before, rfl, hle⟩ := h.exists_count_le
  exact hle

theorem Cloned.lt_count {history : List Operation} {i k : Nat} (h : Cloned history i k) :
    i < k ∧ k < count history := by
  obtain ⟨before, ⟨hi, rfl⟩, hle⟩ := h.exists_count_le
  rw [Operation.made, if_pos hi] at hle
  exact ⟨hi, hle⟩

/-! ## Cells -/

theorem families_prefix_after (flags : CancelFlags) (op : Operation) :
    flags.families <+: (flags.after op).families := by
  cases op with
  | create | clone => exact List.prefix_append _ _
  | cancel | ask | check => exact List.prefix_refl _

/-- A flag keeps its cell. -/
theorem cell_after {flags : CancelFlags} {k : Nat} (hk : k < flags.families.length)
    (op : Operation) : (flags.after op).families[k]? = flags.families[k]? := by
  obtain ⟨more, hmore⟩ := families_prefix_after flags op
  rw [← hmore, List.getElem?_append_left hk]

/-- A flag that is made on its own has a cell that no other has had. -/
theorem cell_ne_new {flags : CancelFlags} {k : Nat} :
    flags.families[k]? ≠ some flags.canceled.length := by
  intro hk
  exact Nat.lt_irrefl _ (flags.family_lt _ (List.mem_of_getElem? hk))

theorem cell_create (flags : CancelFlags) :
    flags.create.families[flags.families.length]? = some flags.canceled.length := by
  simp [create]

/-- A clone has the cell of the flag that it is cloned from. -/
theorem cell_clone {flags : CancelFlags} {i : Nat} (hi : i < flags.families.length) :
    (flags.clone i).families[flags.families.length]? = flags.families[i]? := by
  simp [clone, hi]

theorem isFamilyCanceled_create (flags : CancelFlags) (family : Nat) :
    flags.create.isFamilyCanceled family = flags.isFamilyCanceled family := by
  simp only [isFamilyCanceled, create, List.getD_eq_getElem?_getD, List.getElem?_append]
  split
  next => rfl
  next hle =>
    rw [List.getElem?_eq_none (by omega : flags.canceled.length ≤ family)]
    cases family - flags.canceled.length <;> simp

theorem isFamilyCanceled_cancel_iff {flags : CancelFlags} {i family : Nat} :
    (flags.cancel i).isFamilyCanceled family = true ↔
      flags.isFamilyCanceled family = true ∨ flags.families[i]? = some family := by
  simp only [isFamilyCanceled, cancel]
  split
  next cell hcell =>
    have hlt := flags.family_lt cell (List.mem_of_getElem? hcell)
    by_cases heq : cell = family
    · subst heq
      simp [hlt, hcell]
    · simp [heq, hcell, List.getElem?_set_ne]
  next hnone => simp [hnone]

/-! ## The invariant -/

/-- What the cells of flags say of the history that has made them. -/
structure Represents (history : List Operation) (flags : CancelFlags) : Prop where
  length_eq : flags.families.length = count history
  created : ∀ k l, Created history k → Created history l →
    flags.families[k]? = flags.families[l]? → k = l
  cloned : ∀ i k, Cloned history i k → flags.families[i]? = flags.families[k]?
  stems : ∀ k < count history, ∃ origin, StemsFrom history origin k
  canceled : ∀ family, flags.isFamilyCanceled family = true ↔
    ∃ i, Occurs (.cancel i) (fun before => i < count before) history ∧
      flags.families[i]? = some family

variable {history : List Operation} {flags : CancelFlags}

theorem represents_empty : Represents [] empty where
  length_eq := rfl
  created _ _ h := absurd h not_occurs_nil
  cloned _ _ h := absurd h not_occurs_nil
  stems _ h := absurd h (Nat.not_lt_zero _)
  canceled family := by
    have hfalse : empty.isFamilyCanceled family = false := rfl
    simp [hfalse, not_occurs_nil]

namespace Represents

theorem length_after (h : Represents history flags) (op : Operation) :
    (flags.after op).families.length = count (history ++ [op]) := by
  rw [count_concat, ← h.length_eq]
  cases op with
  | create => simp [after, create, Operation.made]
  | clone i =>
    by_cases hi : i < flags.families.length
    · simp [after, clone, Operation.made, hi]
    · simp [after, clone, Operation.made, hi]
  | cancel | ask | check => rfl

theorem created_after (h : Represents history flags) (op : Operation) {k l : Nat}
    (hk : Created (history ++ [op]) k) (hl : Created (history ++ [op]) l)
    (hcell : (flags.after op).families[k]? = (flags.after op).families[l]?) : k = l := by
  have hold {m : Nat} (hm : Created history m) :
      (flags.after op).families[m]? = flags.families[m]? :=
    cell_after (h.length_eq ▸ hm.lt_count) op
  have hnew (hop : op = .create) :
      (flags.after op).families[count history]? = some flags.canceled.length := by
    rw [← h.length_eq, hop]
    exact cell_create flags
  rcases occurs_concat_iff.mp hk with hk | ⟨hop, rfl⟩ <;>
    rcases occurs_concat_iff.mp hl with hl | ⟨hop, rfl⟩
  · rw [hold hk, hold hl] at hcell
    exact h.created k l hk hl hcell
  · rw [hold hk, hnew hop] at hcell
    exact absurd hcell cell_ne_new
  · rw [hold hl, hnew hop] at hcell
    exact absurd hcell.symm cell_ne_new
  · rfl

theorem cloned_after (h : Represents history flags) (op : Operation) {i k : Nat}
    (hclone : Cloned (history ++ [op]) i k) :
    (flags.after op).families[i]? = (flags.after op).families[k]? := by
  rcases occurs_concat_iff.mp hclone with hclone | ⟨rfl, hi, rfl⟩
  · obtain ⟨hik, hk⟩ := Cloned.lt_count hclone
    rw [← h.length_eq] at hk
    rw [cell_after (Nat.lt_trans hik hk) op, cell_after hk op]
    exact h.cloned i k hclone
  · rw [← h.length_eq] at hi ⊢
    rw [cell_after hi, after, cell_clone hi]

theorem stems_after (h : Represents history flags) (op : Operation) {k : Nat}
    (hk : k < count (history ++ [op])) : ∃ origin, StemsFrom (history ++ [op]) origin k := by
  by_cases hold : k < count history
  · obtain ⟨origin, horigin⟩ := h.stems k hold
    exact ⟨origin, horigin.concat op⟩
  rw [count_concat] at hk
  cases op with
  | create =>
    obtain rfl : k = count history := by
      simp only [Operation.made] at hk
      omega
    exact ⟨count history, occurs_concat_iff.mpr (.inr ⟨rfl, rfl⟩), .refl⟩
  | clone i =>
    have hi : i < count history := by
      by_contra hi
      simp only [Operation.made, hi, if_false] at hk
      omega
    obtain rfl : k = count history := by
      simp only [Operation.made, hi, if_true] at hk
      omega
    obtain ⟨origin, horigin⟩ := h.stems i hi
    have hclone : Cloned (history ++ [.clone i]) i (count history) :=
      occurs_concat_iff.mpr (.inr ⟨rfl, hi, rfl⟩)
    exact ⟨origin, (horigin.concat _).1, (horigin.concat _).2.tail hclone⟩
  | cancel | ask | check => exact absurd hk hold

/-- The flags that have been told to cancel were there before the last
operation, so that they have the cells that they had. -/
theorem exists_canceled_after_iff (h : Represents history flags) (op : Operation) {family : Nat} :
    (∃ i, Occurs (.cancel i) (fun before => i < count before) (history ++ [op]) ∧
      (flags.after op).families[i]? = some family) ↔
    flags.isFamilyCanceled family = true ∨
      ∃ i, op = .cancel i ∧ flags.families[i]? = some family := by
  rw [h.canceled family]
  constructor
  · rintro ⟨i, hoccurs, hcell⟩
    rcases occurs_concat_iff.mp hoccurs with hoccurs | ⟨rfl, hi⟩
    · obtain ⟨before, hi, hle⟩ := hoccurs.exists_count_le
      have hlt : i < count history := Nat.lt_of_lt_of_le hi (Nat.le_of_add_right_le hle)
      rw [cell_after (h.length_eq ▸ hlt)] at hcell
      exact .inl ⟨i, hoccurs, hcell⟩
    · exact .inr ⟨i, rfl, hcell⟩
  · rintro (⟨i, hoccurs, hcell⟩ | ⟨i, rfl, hcell⟩)
    · refine ⟨i, occurs_concat_iff.mpr (.inl hoccurs), ?_⟩
      rwa [cell_after (List.getElem?_eq_some_iff.mp hcell).1]
    · have hi := (List.getElem?_eq_some_iff.mp hcell).1
      exact ⟨i, occurs_concat_iff.mpr (.inr ⟨rfl, h.length_eq ▸ hi⟩), hcell⟩

theorem canceled_after (h : Represents history flags) (op : Operation) (family : Nat) :
    (flags.after op).isFamilyCanceled family = true ↔
      ∃ i, Occurs (.cancel i) (fun before => i < count before) (history ++ [op]) ∧
        (flags.after op).families[i]? = some family := by
  rw [h.exists_canceled_after_iff op]
  cases op with
  | create => simp [after, isFamilyCanceled_create]
  | clone i => simp [after, clone, isFamilyCanceled]
  | cancel i => simp [after, isFamilyCanceled_cancel_iff]
  | ask | check => simp [after]

end Represents

theorem represents_after (h : Represents history flags) (op : Operation) :
    Represents (history ++ [op]) (flags.after op) where
  length_eq := h.length_after op
  created _ _ hk hl hcell := h.created_after op hk hl hcell
  cloned _ _ hclone := h.cloned_after op hclone
  stems _ hk := h.stems_after op hk
  canceled family := h.canceled_after op family

theorem represents_run (history : List Operation) : Represents history (run history) := by
  induction history using List.reverseRecOn with
  | nil => exact represents_empty
  | append_singleton history op ih =>
    rw [run_concat]
    exact represents_after ih op

/-! ## Families -/

theorem StemsFrom.lt_count {origin k : Nat} (h : StemsFrom history origin k) :
    k < count history := by
  obtain ⟨horigin, hclones⟩ := h
  cases hclones with
  | refl => exact horigin.lt_count
  | tail _ hclone => exact hclone.lt_count.2

theorem StemsFrom.cell_eq (h : Represents history flags) {origin k : Nat}
    (hk : StemsFrom history origin k) : flags.families[origin]? = flags.families[k]? := by
  obtain ⟨-, hclones⟩ := hk
  induction hclones with
  | refl => rfl
  | tail _ hclone ih => exact ih.trans (h.cloned _ _ hclone)

/-- Flags of one family are those that share a cell. -/
theorem sameFamily_iff (h : Represents history flags) {i j : Nat} :
    SameFamily history i j ↔
      ∃ cell, flags.families[i]? = some cell ∧ flags.families[j]? = some cell := by
  have hlt {k cell : Nat} (hcell : flags.families[k]? = some cell) : k < count history :=
    h.length_eq ▸ (List.getElem?_eq_some_iff.mp hcell).1
  constructor
  · rintro ⟨origin, hi, hj⟩
    have hcell := List.getElem?_eq_getElem (h.length_eq ▸ hi.lt_count)
    exact ⟨_, hcell, by rw [← hj.cell_eq h, hi.cell_eq h, hcell]⟩
  · rintro ⟨cell, hi, hj⟩
    obtain ⟨origin, hfirst⟩ := h.stems i (hlt hi)
    obtain ⟨other, hsecond⟩ := h.stems j (hlt hj)
    have hcell : flags.families[origin]? = flags.families[other]? := by
      rw [hfirst.cell_eq h, hsecond.cell_eq h, hi, hj]
    obtain rfl := h.created _ _ hfirst.1 hsecond.1 hcell
    exact ⟨origin, hfirst, hsecond⟩

/-! ## What flags answer -/

theorem isCanceled_eq_true_iff {j : Nat} :
    flags.isCanceled j = true ↔
      ∃ cell, flags.families[j]? = some cell ∧ flags.isFamilyCanceled cell = true := by
  unfold isCanceled
  split
  next cell hcell => simp [hcell]
  next hnone => simp [hnone]

theorem isCanceled_run_iff {j : Nat} :
    (run history).isCanceled j = true ↔ FamilyCanceled history j := by
  have h := represents_run history
  rw [isCanceled_eq_true_iff]
  constructor
  · rintro ⟨cell, hj, hcanceled⟩
    obtain ⟨i, htold, hi⟩ := (h.canceled cell).mp hcanceled
    exact ⟨i, htold, (sameFamily_iff h).mpr ⟨cell, hi, hj⟩⟩
  · rintro ⟨i, htold, hsame⟩
    obtain ⟨cell, hi, hj⟩ := (sameFamily_iff h).mp hsame
    exact ⟨cell, hj, (h.canceled cell).mpr ⟨i, htold, hi⟩⟩

theorem check_eq_error_iff {j : Nat} :
    flags.check j = .error {} ↔ flags.isCanceled j = true := by
  unfold check
  split <;> simp [*]

theorem check_eq_ok_iff {j : Nat} : flags.check j = .ok () ↔ flags.isCanceled j = false := by
  unfold check
  split <;> simp [*]

/-- An operation changes what a flag answers only if it cancels the family of the
flag. -/
theorem isCanceled_run_concat_iff (op : Operation) {j : Nat} (hj : j < count history) :
    (run (history ++ [op])).isCanceled j = true ↔
      (run history).isCanceled j = true ∨ ∃ i, op = .cancel i ∧ SameFamily history i j := by
  have h := represents_run history
  simp only [run_concat, isCanceled_eq_true_iff, sameFamily_iff h,
    cell_after (h.length_eq ▸ hj)]
  cases op with
  | create => simp [after, isFamilyCanceled_create]
  | clone i => simp [after, clone, isFamilyCanceled]
  | cancel i =>
    simp only [after, isFamilyCanceled_cancel_iff]
    grind
  | ask | check => simp [after]

theorem isCanceled_run_concat_eq {op : Operation} {j : Nat} (hj : j < count history)
    (hop : ∀ i, op = .cancel i → ¬ SameFamily history i j) :
    (run (history ++ [op])).isCanceled j = (run history).isCanceled j := by
  have hnone : ¬ ∃ i, op = .cancel i ∧ SameFamily history i j := by
    rintro ⟨i, hcancel, hsame⟩
    exact hop i hcancel hsame
  rw [Bool.eq_iff_iff, isCanceled_run_concat_iff op hj, or_iff_left hnone]

theorem isCanceled_run_append (more : List Operation) {j : Nat}
    (hj : (run history).isCanceled j = true) : (run (history ++ more)).isCanceled j = true := by
  induction more using List.reverseRecOn with
  | nil => rwa [List.append_nil]
  | append_singleton more op ih =>
    have hlt : j < count (history ++ more) := by
      obtain ⟨cell, hcell, -⟩ := isCanceled_eq_true_iff.mp ih
      exact (represents_run _).length_eq ▸ (List.getElem?_eq_some_iff.mp hcell).1
    rw [← List.append_assoc]
    exact (isCanceled_run_concat_iff op hlt).mpr (.inl ih)

/-- After any history a flag has been canceled if and only if some flag of its
family was told to cancel, and it is checked accordingly.  It stays canceled.  A
further operation changes what the flags that are there answer only if it is a
cancel, and then only for the family of the flag that it names; to ask and to check
change nothing at all. -/
theorem cancellation_by_family (history : List Operation) :
    (∀ j, (run history).isCanceled j = true ↔ FamilyCanceled history j) ∧
    (∀ j, ((run history).check j = .error {} ↔ FamilyCanceled history j) ∧
      ((run history).check j = .ok () ↔ ¬ FamilyCanceled history j)) ∧
    (∀ more j, (run history).isCanceled j = true →
      (run (history ++ more)).isCanceled j = true) ∧
    (∀ i j, j < count history → ¬ SameFamily history i j →
      (run (history ++ [.cancel i])).isCanceled j = (run history).isCanceled j) ∧
    (∀ op j, j < count history → (∀ i, op ≠ .cancel i) →
      (run (history ++ [op])).isCanceled j = (run history).isCanceled j) ∧
    ∀ i, run (history ++ [.ask i]) = run history ∧ run (history ++ [.check i]) = run history := by
  refine ⟨fun j => isCanceled_run_iff, fun j => ⟨?stop, ?goOn⟩,
    fun more j => isCanceled_run_append more, fun i j hj hother => ?otherFamily,
    fun op j hj hop => ?otherOperation, fun i => ⟨run_concat _ _, run_concat _ _⟩⟩
  case stop => rw [check_eq_error_iff, isCanceled_run_iff]
  case goOn => rw [check_eq_ok_iff, ← isCanceled_run_iff, Bool.not_eq_true]
  case otherFamily =>
    refine isCanceled_run_concat_eq hj fun k hcancel => ?_
    cases hcancel
    exact hother
  case otherOperation =>
    exact isCanceled_run_concat_eq hj fun k hcancel => absurd hcancel (hop k)

/-- A family of three flags, the second of which cancels before the third is cloned, and
a family of one flag. -/
def twoFamilies : List Operation :=
  [.create, .clone 0, .create, .cancel 1, .clone 0]

/-- The flag that was cloned late is canceled and stays so.  The other family is not, not
even if its flag is cloned or the first family is told to cancel again. -/
theorem cancellation_of_one_of_two_families :
    (run twoFamilies).states = [true, true, false, true] ∧
    FamilyCanceled twoFamilies 3 ∧ (run twoFamilies).check 3 = .error {} ∧
    ¬ FamilyCanceled twoFamilies 2 ∧ (run twoFamilies).check 2 = .ok () ∧
    (run (twoFamilies ++ [.cancel 2])).isCanceled 3 = true ∧
    ¬ SameFamily twoFamilies 1 2 ∧
    (run (twoFamilies ++ [.cancel 1])).isCanceled 2 = false ∧
    (run (twoFamilies ++ [.clone 2])).isCanceled 2 = false := by
  obtain ⟨hasked, hchecked, hstays, hotherFamily, hotherOperation, -⟩ :=
    cancellation_by_family twoFamilies
  have hthird : (run twoFamilies).isCanceled 3 = true := by decide
  have hcanceled : FamilyCanceled twoFamilies 3 := (hasked 3).mp hthird
  have hsecond : (run twoFamilies).isCanceled 2 = false := by decide
  have hgoesOn : ¬ FamilyCanceled twoFamilies 2 := by
    rw [← hasked 2, hsecond]
    exact Bool.false_ne_true
  have hpresent : 2 < count twoFamilies := by decide
  have hfamilies : ¬ SameFamily twoFamilies 1 2 :=
    fun hsame => hgoesOn ⟨1, ⟨[.create, .clone 0, .create], [.clone 0], rfl, by decide⟩, hsame⟩
  refine ⟨by decide, hcanceled, (hchecked 3).1.mpr hcanceled, hgoesOn, (hchecked 2).2.mpr hgoesOn,
    hstays [.cancel 2] 3 hthird, hfamilies, ?cancel, ?clone⟩
  case cancel => exact (hotherFamily 1 2 hpresent hfamilies).trans hsecond
  case clone => exact (hotherOperation (.clone 2) 2 hpresent fun i => nofun).trans hsecond

end JdkCatalog.Feed.CancelFlags
