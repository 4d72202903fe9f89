import Mathlib.Data.List.Forall2

/-!
# Stable sorts

A comparison may tie elements that differ.  A stable sort leaves those in the
order in which they were.

* `IsStableSort` says what it means for a list to be the stable sort of
  another.  `isStableSort_mergeSort` says that merge sort makes one, and
  `IsStableSort.unique` that there is no other.
* `forall₂_tie_of_perm` says that two ordered lists with the same elements tie
  place by place.  Its induction goes through both lists at once, and counts
  for each element those that tie with it.
-/

namespace JdkCatalog.Sorting

variable {α : Type} {cmp : α → α → Ordering}

/-- No element is greater than a later one. -/
def Ordered (cmp : α → α → Ordering) (as : List α) : Prop :=
  as.Pairwise fun a b => cmp a b ≠ .gt

/-- The elements of a list that tie with a given one. -/
def ties (cmp : α → α → Ordering) (a : α) (as : List α) : List α :=
  as.filter fun b => cmp a b = .eq

/-- A list has the elements of another in order, and those that tie with one
another are still in the order in which they were. -/
structure IsStableSort (cmp : α → α → Ordering) (as sorted : List α) : Prop where
  perm : sorted.Perm as
  ordered : Ordered cmp sorted
  ties_eq : ∀ a, ties cmp a sorted = ties cmp a as

theorem mem_ties {a b : α} {as : List α} : b ∈ ties cmp a as ↔ b ∈ as ∧ cmp a b = .eq := by
  rw [ties, List.mem_filter, decide_eq_true_iff]

theorem ties_cons (a b : α) (as : List α) :
    ties cmp a (b :: as) = if cmp a b = .eq then b :: ties cmp a as else ties cmp a as := by
  rw [ties, List.filter_cons]
  simp only [decide_eq_true_iff, ties]

theorem ties_ties (a : α) (as : List α) : ties cmp a (ties cmp a as) = ties cmp a as := by
  rw [ties, List.filter_eq_self]
  intro b hb
  exact decide_eq_true (mem_ties.mp hb).2

variable [Std.TransCmp cmp]

/-- Not being greater is transitive, and a strict step makes the whole strict. -/
theorem ne_gt_trans {a b c : α} (hab : cmp a b ≠ .gt) (hbc : cmp b c ≠ .gt) :
    cmp a c ≠ .gt ∧ (cmp a b = .lt ∨ cmp b c = .lt → cmp a c = .lt) := by
  have hab : (cmp a b).isLE = true := Ordering.ne_gt_iff_isLE.mp hab
  have hbc : (cmp b c).isLE = true := Ordering.ne_gt_iff_isLE.mp hbc
  refine ⟨Ordering.ne_gt_iff_isLE.mpr (Std.TransCmp.isLE_trans hab hbc), fun hstrict => ?_⟩
  rcases hstrict with hlt | hlt
  · exact Std.TransCmp.lt_of_lt_of_isLE hlt hbc
  · exact Std.TransCmp.lt_of_isLE_of_lt hab hlt

/-! ## Merge sort -/

theorem pairwise_ties (a : α) (as : List α) :
    (ties cmp a as).Pairwise fun b c => (cmp b c).isLE = true := by
  refine List.pairwise_of_forall_mem_list fun b hb c hc => ?_
  have hba : cmp b a = .eq := Std.OrientedCmp.eq_symm (mem_ties.mp hb).2
  have hac : cmp a c = .eq := (mem_ties.mp hc).2
  exact Ordering.isLE_of_eq_eq (Std.TransCmp.eq_trans hba hac)

theorem isStableSort_mergeSort (as : List α) :
    IsStableSort cmp as (as.mergeSort fun a b => (cmp a b).isLE) := by
  have htrans : ∀ a b c, (cmp a b).isLE = true → (cmp b c).isLE = true →
      (cmp a c).isLE = true := fun _ _ _ => Std.TransCmp.isLE_trans
  have htotal : ∀ a b, ((cmp a b).isLE || (cmp b a).isLE) = true := by
    intro a b
    have hswap : cmp b a = (cmp a b).swap := Std.OrientedCmp.eq_swap
    rw [hswap]
    cases cmp a b <;> rfl
  have hperm := List.mergeSort_perm as fun a b => (cmp a b).isLE
  constructor
  case perm => exact hperm
  case ordered =>
    exact (List.pairwise_mergeSort htrans htotal as).imp Ordering.ne_gt_iff_isLE.mpr
  case ties_eq =>
    intro a
    -- The ties are ordered, so sorting keeps them as a sublist; and it keeps their number.
    have hsublist : (ties cmp a as).Sublist (as.mergeSort fun a b => (cmp a b).isLE) :=
      List.sublist_mergeSort htrans htotal (pairwise_ties a as) List.filter_sublist
    have hties := hsublist.filter fun b => cmp a b = .eq
    have hlength := (hperm.filter fun b => cmp a b = .eq).length_eq
    have hkeep : (ties cmp a as).filter (fun b => cmp a b = .eq) = ties cmp a as := ties_ties a as
    rw [hkeep] at hties
    exact (hties.eq_of_length hlength.symm).symm

/-! ## Two ordered lists -/

/-- The element in front of an ordered list is not greater than any. -/
theorem Ordered.head_isLE {a b : α} {as : List α} (h : Ordered cmp (a :: as))
    (hb : b ∈ a :: as) : (cmp a b).isLE = true := by
  rcases List.mem_cons.mp hb with rfl | hb
  · exact Std.ReflCmp.isLE_rfl
  · exact Ordering.ne_gt_iff_isLE.mp (List.rel_of_pairwise_cons h hb)

/-- If the element in front of each of two ordered lists ties with an element
of the other list, the two elements tie. -/
theorem heads_tie {a b c d : α} {as bs : List α} (has : Ordered cmp (a :: as))
    (hbs : Ordered cmp (b :: bs)) (hc : c ∈ ties cmp a (b :: bs))
    (hd : d ∈ ties cmp b (a :: as)) : cmp a b = .eq := by
  obtain ⟨hc, hac⟩ := mem_ties.mp hc
  obtain ⟨hd, hbd⟩ := mem_ties.mp hd
  have hab : (cmp a b).isLE = true :=
    Std.TransCmp.isLE_trans (has.head_isLE hd)
      (Ordering.isLE_of_eq_eq (Std.OrientedCmp.eq_symm hbd))
  have hba : (cmp b a).isLE = true :=
    Std.TransCmp.isLE_trans (hbs.head_isLE hc)
      (Ordering.isLE_of_eq_eq (Std.OrientedCmp.eq_symm hac))
  exact Std.OrientedCmp.isLE_antisymm hab hba

theorem mem_ties_head (a : α) (as : List α) : a ∈ ties cmp a (a :: as) :=
  mem_ties.mpr ⟨List.mem_cons_self, Std.ReflCmp.compare_self⟩

/-- If two lists have as many elements that tie with any one, what is in front
of the first ties with something in the second. -/
theorem exists_mem_ties_of_length {a : α} {as bs : List α}
    (hlength : ∀ c, (ties cmp c (a :: as)).length = (ties cmp c bs).length) :
    ∃ c, c ∈ ties cmp a bs := by
  have hpos : 0 < (ties cmp a bs).length := by
    rw [← hlength]
    exact List.length_pos_of_mem (mem_ties_head a as)
  exact List.exists_mem_of_length_pos hpos

theorem forall₂_tie_of_length_ties {as bs : List α} (has : Ordered cmp as)
    (hbs : Ordered cmp bs) (hlength : ∀ c, (ties cmp c as).length = (ties cmp c bs).length) :
    List.Forall₂ (fun a b => cmp a b = .eq) as bs := by
  induction as generalizing bs with
  | nil =>
    cases bs with
    | nil => exact .nil
    | cons b bs =>
      obtain ⟨c, hc⟩ := exists_mem_ties_of_length fun c => (hlength c).symm
      cases hc
  | cons a as ih =>
    obtain ⟨c, hc⟩ := exists_mem_ties_of_length hlength
    cases bs with
    | nil => cases hc
    | cons b bs =>
      obtain ⟨d, hd⟩ := exists_mem_ties_of_length fun c => (hlength c).symm
      have htie : cmp a b = .eq := heads_tie has hbs hc hd
      refine .cons htie (ih has.of_cons hbs.of_cons fun c => ?_)
      -- The two elements in front count in the same classes of ties.
      have hclass : cmp c a = cmp c b := Std.TransCmp.congr_right htie
      have hcount := hlength c
      rw [ties_cons, ties_cons, hclass] at hcount
      split at hcount
      · exact Nat.succ.inj hcount
      · exact hcount

/-- Two ordered lists with the same elements tie place by place. -/
theorem forall₂_tie_of_perm {as bs : List α} (has : Ordered cmp as) (hbs : Ordered cmp bs)
    (hperm : as.Perm bs) : List.Forall₂ (fun a b => cmp a b = .eq) as bs :=
  forall₂_tie_of_length_ties has hbs fun c =>
    (hperm.filter fun b => cmp c b = .eq).length_eq

/-- Two lists that tie place by place are the same if those of their elements
that tie with one another are in the same order. -/
theorem eq_of_forall₂_tie {as bs : List α}
    (htie : List.Forall₂ (fun a b => cmp a b = .eq) as bs)
    (hties : ∀ c, ties cmp c as = ties cmp c bs) : as = bs := by
  induction htie with
  | nil => rfl
  | @cons a b as bs hab _ ih =>
    have hself : cmp a a = .eq := Std.ReflCmp.compare_self
    have hfront := hties a
    rw [ties_cons, ties_cons, if_pos hself, if_pos hab] at hfront
    obtain ⟨rfl, -⟩ := List.cons.inj hfront
    have hrest : ∀ c, ties cmp c as = ties cmp c bs := by
      intro c
      have hc := hties c
      rw [ties_cons, ties_cons] at hc
      split at hc
      · exact (List.cons.inj hc).2
      · exact hc
    rw [ih hrest]

/-- There is one stable sort of a list. -/
theorem IsStableSort.unique {as sorted sorted' : List α} (h : IsStableSort cmp as sorted)
    (h' : IsStableSort cmp as sorted') : sorted = sorted' := by
  have htie := forall₂_tie_of_perm h.ordered h'.ordered (h.perm.trans h'.perm.symm)
  exact eq_of_forall₂_tie htie fun a => (h.ties_eq a).trans (h'.ties_eq a).symm

end JdkCatalog.Sorting
