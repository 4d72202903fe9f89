import JdkCatalog.Proofs.Text.Runs
import Mathlib.Data.List.Forall2

/-!
# Texts that end where they end

When a text is followed by another one, it may not be plain where the first one ends.
`TellsApart` says that for the texts of two values it is: whatever follows them, if the
two together are the same then the values are, and so is what follows.  What follows
may have to start with no character of a kind, as a number has to be followed by
something that is no digit.

`forall₂_of_flatMap_eq` and `forall₂_of_intercalate_eq` carry this from items to lists of
items that are written with separators between them and a closing character behind
them.
-/

namespace JdkCatalog.Text

/-- The first part, and each other one after a separator. -/
theorem intercalate_cons (sep part : List Char) (parts : List (List Char)) :
    sep.intercalate (part :: parts) = part ++ parts.flatMap (sep ++ ·) := by
  induction parts generalizing part with
  | nil => simp
  | cons next parts ih =>
    rw [List.intercalate_cons_cons, ih next, List.flatMap_cons]
    simp only [List.append_assoc]

section

variable {α : Type} {write : α → List Char} {same : α → α → Prop} {p : Char → Bool}

/-- If the texts of two values, and what follows them, are together the same, then so
are the values and what follows. -/
def TellsApart (write : α → List Char) (same : α → α → Prop) (p : Char → Bool) (a b : α) : Prop :=
  ∀ ⦃r s : List Char⦄, NoneAhead p r → NoneAhead p s → write a ++ r = write b ++ s →
    same a b ∧ r = s

/-- What stands between items ends the item in front of it, and does not start like the
end of the list. -/
structure IsSeparator (p : Char → Bool) (close : Char) (sep : List Char) : Prop where
  ends : ∀ rest, NoneAhead p (sep ++ rest)
  ne_close : ∀ rest rest', sep ++ rest ≠ close :: rest'

theorem isSeparator_cons {close c : Char} {sep : List Char} (hc : p c = false) (hne : c ≠ close) :
    IsSeparator p close (c :: sep) where
  ends _ := noneAhead_cons.mpr hc
  ne_close _ _ h := hne (List.head_eq_of_cons_eq h)

variable {close : Char} {sep sep' : List Char}

theorem noneAhead_flatMap (hsep : IsSeparator p close sep) (hclose : p close = false)
    (texts : List (List Char)) (rest : List Char) :
    NoneAhead p (texts.flatMap (sep ++ ·) ++ close :: rest) := by
  cases texts with
  | nil => exact noneAhead_cons.mpr hclose
  | cons text texts =>
    rw [List.flatMap_cons, List.append_assoc, List.append_assoc]
    exact hsep.ends _

/-- Items that each have a separator in front of them.  Different separators are told
apart as well. -/
theorem forall₂_of_flatMap_eq (hsep : IsSeparator p close sep) (hsep' : IsSeparator p close sep')
    (hclose : p close = false) (hpair : ∀ x y, sep ++ x = sep' ++ y → sep = sep' ∧ x = y)
    {as bs : List α} (hitems : ∀ a ∈ as, ∀ b ∈ bs, TellsApart write same p a b) {r s : List Char}
    (h : (as.map write).flatMap (sep ++ ·) ++ close :: r =
      (bs.map write).flatMap (sep' ++ ·) ++ close :: s) :
    List.Forall₂ same as bs ∧ r = s ∧ (as ≠ [] → sep = sep') := by
  induction as generalizing bs with
  | nil =>
    cases bs with
    | nil => exact ⟨.nil, List.tail_eq_of_cons_eq h, fun hne => absurd rfl hne⟩
    | cons b bs =>
      rw [List.map_cons, List.flatMap_cons, List.append_assoc, List.append_assoc] at h
      exact absurd h.symm (hsep'.ne_close _ _)
  | cons a as ih =>
    rw [List.map_cons, List.flatMap_cons, List.append_assoc, List.append_assoc] at h
    cases bs with
    | nil => exact absurd h (hsep.ne_close _ _)
    | cons b bs =>
      rw [List.map_cons, List.flatMap_cons, List.append_assoc, List.append_assoc] at h
      obtain ⟨rfl, h⟩ := hpair _ _ h
      obtain ⟨hfirst, h⟩ := hitems a List.mem_cons_self b List.mem_cons_self
        (noneAhead_flatMap hsep hclose _ r) (noneAhead_flatMap hsep' hclose _ s) h
      have hrest : ∀ a ∈ as, ∀ b ∈ bs, TellsApart write same p a b := fun a ha b hb =>
        hitems a (List.mem_cons_of_mem _ ha) b (List.mem_cons_of_mem _ hb)
      obtain ⟨hothers, hrs, -⟩ := ih hrest h
      exact ⟨.cons hfirst hothers, hrs, fun _ => rfl⟩

/-- Items with separators between them.  No separator is seen of a list of fewer than
two items. -/
theorem forall₂_of_intercalate_eq (hsep : IsSeparator p close sep)
    (hsep' : IsSeparator p close sep') (hclose : p close = false)
    (hpair : ∀ x y, sep ++ x = sep' ++ y → sep = sep' ∧ x = y)
    (hwrite : ∀ a rest rest', write a ++ rest ≠ close :: rest') {as bs : List α}
    (hitems : ∀ a ∈ as, ∀ b ∈ bs, TellsApart write same p a b) {r s : List Char}
    (h : sep.intercalate (as.map write) ++ close :: r =
      sep'.intercalate (bs.map write) ++ close :: s) :
    List.Forall₂ same as bs ∧ r = s ∧ (2 ≤ as.length → sep = sep') := by
  cases as with
  | nil =>
    cases bs with
    | nil => exact ⟨.nil, List.tail_eq_of_cons_eq h, fun hlength => absurd hlength (by simp)⟩
    | cons b bs =>
      rw [List.map_cons, intercalate_cons, List.append_assoc] at h
      exact absurd h.symm (hwrite b _ _)
  | cons a as =>
    rw [List.map_cons, intercalate_cons, List.append_assoc] at h
    cases bs with
    | nil => exact absurd h (hwrite a _ _)
    | cons b bs =>
      rw [List.map_cons, intercalate_cons, List.append_assoc] at h
      obtain ⟨hfirst, h⟩ := hitems a List.mem_cons_self b List.mem_cons_self
        (noneAhead_flatMap hsep hclose _ r) (noneAhead_flatMap hsep' hclose _ s) h
      have hrest : ∀ a ∈ as, ∀ b ∈ bs, TellsApart write same p a b := fun a ha b hb =>
        hitems a (List.mem_cons_of_mem _ ha) b (List.mem_cons_of_mem _ hb)
      obtain ⟨hothers, hrs, hsame⟩ := forall₂_of_flatMap_eq hsep hsep' hclose hpair hrest h
      refine ⟨.cons hfirst hothers, hrs, fun hlength => hsame ?_⟩
      rintro rfl
      simp at hlength

end

end JdkCatalog.Text
