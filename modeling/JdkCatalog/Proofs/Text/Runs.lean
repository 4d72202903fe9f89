import JdkCatalog.Proofs.Text.Letters
import JdkCatalog.Text.Blank
import Mathlib.Data.List.Basic

/-!
# Runs of characters

Where a run of characters of one kind ends, and what trimming leaves.
`Trimmed` says what a text without the blank characters at its two ends is.
It determines the text, and `trim` computes it.
-/

namespace JdkCatalog.Text

/-- A text that goes on with no character of a kind ends a run of them. -/
def NoneAhead (p : Char → Bool) (cs : List Char) : Prop :=
  ∀ c ∈ cs.head?, p c = false

variable {p : Char → Bool}

theorem noneAhead_nil : NoneAhead p [] := by simp [NoneAhead]

theorem noneAhead_cons {c : Char} {cs : List Char} : NoneAhead p (c :: cs) ↔ p c = false := by
  simp [NoneAhead]

theorem NoneAhead.of_append {cs rest : List Char} (h : NoneAhead p (cs ++ rest)) :
    NoneAhead p cs := by
  cases cs with
  | nil => exact noneAhead_nil
  | cons c cs => exact noneAhead_cons.mpr (noneAhead_cons.mp h)

theorem noneAhead_dropWhile (cs : List Char) : NoneAhead p (cs.dropWhile p) := by
  intro c hc
  have hhead := List.head?_dropWhile_not p cs
  rw [hc] at hhead
  exact hhead

theorem takeWhile_append_of_noneAhead {front rest : List Char}
    (hfront : ∀ c ∈ front, p c = true) (hrest : NoneAhead p rest) :
    (front ++ rest).takeWhile p = front := by
  rw [List.takeWhile_append_of_pos hfront]
  cases rest with
  | nil => simp
  | cons c rest => simp [noneAhead_cons.mp hrest]

theorem dropWhile_append_of_noneAhead {front rest : List Char}
    (hfront : ∀ c ∈ front, p c = true) (hrest : NoneAhead p rest) :
    (front ++ rest).dropWhile p = rest := by
  rw [List.dropWhile_append_of_pos hfront]
  cases rest with
  | nil => rfl
  | cons c rest => simp [noneAhead_cons.mp hrest]

/-- A text that starts with characters of a kind parts in one way into these and a rest
that goes on with none. -/
theorem append_inj_of_noneAhead {x y r s : List Char} (hx : ∀ c ∈ x, p c = true)
    (hy : ∀ c ∈ y, p c = true) (hr : NoneAhead p r) (hs : NoneAhead p s)
    (h : x ++ r = y ++ s) : x = y ∧ r = s := by
  have htake : x = y := by
    rw [← takeWhile_append_of_noneAhead hx hr, h, takeWhile_append_of_noneAhead hy hs]
  subst htake
  exact ⟨rfl, List.append_cancel_left h⟩

/-! ## Trimming -/

/-- The second text is the first one without the blank characters at its two
ends. -/
structure Trimmed (cs core : List Char) : Prop where
  surrounded : ∃ before after, cs = before ++ core ++ after ∧
    (∀ c ∈ before, isBlank c = true) ∧ ∀ c ∈ after, isBlank c = true
  start : NoneAhead isBlank core
  finish : NoneAhead isBlank core.reverse

theorem Trimmed.trim_eq {cs core : List Char} (h : Trimmed cs core) : trim cs = core := by
  obtain ⟨before, after, rfl, hbefore, hafter⟩ := h.surrounded
  have hreverse : ∀ c ∈ after.reverse, isBlank c = true := fun c hc =>
    hafter c (List.mem_reverse.mp hc)
  have hend : trimEnd (core ++ after) = core := by
    rw [trimEnd, List.reverse_append, dropWhile_append_of_noneAhead hreverse h.finish,
      List.reverse_reverse]
  rw [trim, List.append_assoc]
  cases core with
  | nil =>
    have hall := List.forall_mem_append.mpr ⟨hbefore, hafter⟩
    have hnil := dropWhile_append_of_noneAhead hall noneAhead_nil
    rw [List.append_nil] at hnil
    rw [List.nil_append, hnil]
    rfl
  | cons c core =>
    have hstart : NoneAhead isBlank (c :: core ++ after) :=
      noneAhead_cons.mpr (noneAhead_cons.mp h.start)
    rw [dropWhile_append_of_noneAhead hbefore hstart, hend]

theorem trimEnd_append_reverse_takeWhile (cs : List Char) :
    trimEnd cs ++ (cs.reverse.takeWhile isBlank).reverse = cs := by
  rw [trimEnd, ← List.reverse_append, List.takeWhile_append_dropWhile, List.reverse_reverse]

theorem trimmed_trim (cs : List Char) : Trimmed cs (trim cs) where
  surrounded := by
    refine ⟨cs.takeWhile isBlank, ((cs.dropWhile isBlank).reverse.takeWhile isBlank).reverse,
      ?_, ?_, ?_⟩
    · rw [List.append_assoc, trim, trimEnd_append_reverse_takeWhile,
        List.takeWhile_append_dropWhile]
    · exact List.all_eq_true.mp List.all_takeWhile
    · intro c hc
      exact List.all_eq_true.mp List.all_takeWhile c (List.mem_reverse.mp hc)
  start := by
    apply NoneAhead.of_append
    rw [trim, trimEnd_append_reverse_takeWhile]
    exact noneAhead_dropWhile cs
  finish := by
    rw [trim, trimEnd, List.reverse_reverse]
    exact noneAhead_dropWhile _

theorem Trimmed.pad {cs core before after : List Char} (h : Trimmed cs core)
    (hbefore : ∀ c ∈ before, isBlank c = true) (hafter : ∀ c ∈ after, isBlank c = true) :
    Trimmed (before ++ cs ++ after) core := by
  obtain ⟨front, back, rfl, hfront, hback⟩ := h.surrounded
  refine ⟨⟨before ++ front, back ++ after, by simp, ?_, ?_⟩, h.start, h.finish⟩
  · exact List.forall_mem_append.mpr ⟨hbefore, hfront⟩
  · exact List.forall_mem_append.mpr ⟨hback, hafter⟩

/-- Blank characters around a text are lost in trimming it. -/
theorem trim_pad {cs before after : List Char} (hbefore : ∀ c ∈ before, isBlank c = true)
    (hafter : ∀ c ∈ after, isBlank c = true) : trim (before ++ cs ++ after) = trim cs :=
  ((trimmed_trim cs).pad hbefore hafter).trim_eq

/-! ## Texts that trimming leaves alone -/

/-- An ASCII character that is seen when it is printed. -/
structure IsVisible (c : Char) : Prop where
  low : 0x20 < c.toNat
  high : c.toNat < 0x80

theorem IsVisible.isBlank_eq_false {c : Char} (h : IsVisible c) : isBlank c = false := by
  obtain ⟨hlow, hhigh⟩ := h
  simp only [isBlank, Bool.or_eq_false_iff, Bool.and_eq_false_iff, decide_eq_false_iff_not]
  omega

theorem isVisible_of_isDigit {c : Char} (hc : c.isDigit = true) : IsVisible c := by
  have hlow : 0x30 ≤ c.toNat := (Char.isDigit_iff_toNat.mp hc).1
  have hhigh : c.toNat ≤ 0x39 := (Char.isDigit_iff_toNat.mp hc).2
  exact ⟨by omega, by omega⟩

theorem isVisible_of_isAlpha {c : Char} (hc : c.isAlpha = true) : IsVisible c := by
  have hrange := isAlpha_iff_toNat.mp hc
  exact ⟨by omega, by omega⟩

/-- A text without blank characters is not changed by trimming. -/
theorem trim_eq_self {cs : List Char} (hcs : ∀ c ∈ cs, isBlank c = false) : trim cs = cs := by
  have hhead : ∀ ds : List Char, (∀ c ∈ ds, c ∈ cs) → NoneAhead isBlank ds := by
    intro ds hds c hc
    exact hcs c (hds c (List.mem_of_mem_head? hc))
  have htrimmed : Trimmed cs cs := {
    surrounded := ⟨[], [], by simp, by simp, by simp⟩
    start := hhead cs fun _ hc => hc
    finish := hhead cs.reverse fun _ hc => List.mem_reverse.mp hc }
  exact htrimmed.trim_eq

end JdkCatalog.Text
