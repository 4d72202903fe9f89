import JdkCatalog.Proofs.Json.Text
import JdkCatalog.Proofs.Version.Tokens

/-!
# Maximal runs

Where the runs of a text stand in it.

* `MaximalRun` says what a maximal run is: characters of one kind between two texts
  that go on with it in neither direction.  `maximalRun_run_append_iff` finds those of
  a text that starts with a run, and `MaximalRun.tokensOf_eq` says that the token of a
  maximal run is between those of the two texts around it.
* `placedFrom` gives runs the offsets at which their bytes start, and
  `mem_placedFrom_runs_iff` says that the runs of a text so placed are its maximal
  runs.  `pairwise_placedFrom` says that they follow one another.
-/

namespace JdkCatalog.Version

/-! ## Maximal runs -/

/-- A text has a run of one kind between two others, and the run goes on in neither
direction. -/
structure MaximalRun (cs : List Char) (kind : CharClass) (front run rest : List Char) : Prop where
  text_eq : cs = front ++ (run ++ rest)
  ne_nil : run ≠ []
  isKind : ∀ c ∈ run, CharClass.of c = kind
  start : ∀ c ∈ front.getLast?, CharClass.of c ≠ kind
  finish : ∀ c ∈ rest.head?, CharClass.of c ≠ kind

/-- A text that starts with one kind parts in one way. -/
theorem run_eq_of_append_eq {kind : CharClass} {run run' rest rest' : List Char}
    (hrun : ∀ c ∈ run, CharClass.of c = kind) (hrest : ∀ c ∈ rest.head?, CharClass.of c ≠ kind)
    (hrun' : ∀ c ∈ run', CharClass.of c = kind)
    (hrest' : ∀ c ∈ rest'.head?, CharClass.of c ≠ kind)
    (h : run ++ rest = run' ++ rest') : run = run' ∧ rest = rest' :=
  Text.append_inj_of_noneAhead (p := fun c => CharClass.of c = kind)
    (fun c hc => decide_eq_true (hrun c hc)) (fun c hc => decide_eq_true (hrun' c hc))
    (fun c hc => decide_eq_false (hrest c hc)) (fun c hc => decide_eq_false (hrest' c hc)) h

/-- The maximal runs of a text are its first run, and those of what follows it. -/
theorem maximalRun_run_append_iff {kind kind' : CharClass} {run rest front run' rest' : List Char}
    (hne : run ≠ []) (hrun : ∀ c ∈ run, CharClass.of c = kind)
    (hrest : ∀ c ∈ rest.head?, CharClass.of c ≠ kind) :
    MaximalRun (run ++ rest) kind' front run' rest' ↔
      (kind' = kind ∧ front = [] ∧ run' = run ∧ rest' = rest) ∨
        ∃ front', front = run ++ front' ∧ MaximalRun rest kind' front' run' rest' := by
  constructor
  · rintro ⟨htext, hne', hrun', hstart, hfinish⟩
    rcases List.append_eq_append_iff.mp htext with ⟨front', rfl, hrest'⟩ | ⟨more, rfl, hafter⟩
    · refine .inr ⟨front', rfl, hrest', hne', hrun', fun c hc => hstart c ?_, hfinish⟩
      rw [List.getLast?_append, Option.mem_def.mp hc]
      rfl
    · cases more with
      | nil => exact .inr ⟨[], by simp, hafter.symm, hne', hrun', by simp, hfinish⟩
      | cons c more =>
        -- The first character of the run is one of the first run, so the two are of one kind.
        obtain ⟨d, more', rfl⟩ := List.exists_cons_of_ne_nil hne'
        obtain rfl : d = c := List.head_eq_of_cons_eq hafter
        obtain rfl : kind' = kind :=
          (hrun' d List.mem_cons_self).symm.trans (hrun d (by simp))
        obtain rfl : front = [] := by
          by_contra hfront
          have hlast := List.getLast?_eq_some_getLast hfront
          exact hstart _ hlast (hrun _ (List.mem_append_left _ (List.getLast_mem hfront)))
        obtain ⟨hsame, hsame'⟩ := run_eq_of_append_eq hrun' hfinish hrun hrest hafter
        exact .inl ⟨rfl, rfl, hsame, hsame'⟩
  · rintro (⟨rfl, rfl, rfl, rfl⟩ | ⟨front', rfl, h⟩)
    · exact ⟨rfl, hne, hrun, by simp, hrest⟩
    · refine ⟨by rw [h.text_eq, List.append_assoc], h.ne_nil, h.isKind, ?_, h.finish⟩
      intro c hc
      rw [List.getLast?_append] at hc
      cases hlast : front'.getLast? with
      | some d =>
        rw [hlast] at hc
        obtain rfl : d = c := Option.some.inj hc
        exact h.start d hlast
      | none =>
        -- The run stands right after the first one, which does not go on.
        rw [hlast] at hc
        obtain rfl : front' = [] := List.getLast?_eq_none_iff.mp hlast
        obtain ⟨d, more, hrun'⟩ := List.exists_cons_of_ne_nil h.ne_nil
        have hd : d ∈ rest.head? := by rw [h.text_eq, hrun']; rfl
        rw [hrun c (List.mem_of_getLast? hc), ← h.isKind d (hrun' ▸ List.mem_cons_self)]
        exact (hrest d hd).symm

theorem not_maximalRun_nil {kind : CharClass} {front run rest : List Char} :
    ¬ MaximalRun [] kind front run rest := by
  rintro ⟨htext, hne, -⟩
  have hboth := (List.append_eq_nil_iff.mp htext.symm).2
  exact hne (List.append_eq_nil_iff.mp hboth).1

theorem MaximalRun.tokensOf_eq {cs front run rest : List Char} {kind : CharClass}
    (h : MaximalRun cs kind front run rest) :
    tokensOf cs = tokensOf front ++ ((Token.ofRun? run).toList ++ tokensOf rest) := by
  have hne : ∀ c ∈ front.getLast?, ∀ d ∈ (run ++ rest).head?,
      CharClass.of c ≠ CharClass.of d := by
    intro c hc d hd
    obtain ⟨e, more, hrun⟩ := List.exists_cons_of_ne_nil h.ne_nil
    rw [hrun] at hd
    obtain rfl : e = d := Option.some.inj hd
    rw [h.isKind e (hrun ▸ List.mem_cons_self)]
    exact h.start c hc
  rw [h.text_eq, tokensOf_append_of_ne hne, tokensOf_run_append h.ne_nil h.isKind h.finish]

/-! ## Runs at their offsets -/

/-- Runs with the offsets at which they start, the first one at the given offset. -/
def placedFrom (offset : Nat) : List (List Char) → List (Nat × List Char)
  | [] => []
  | run :: runs => (offset, run) :: placedFrom (offset + (Text.bytesOf run).length) runs

theorem map_snd_placedFrom (offset : Nat) (runs : List (List Char)) :
    (placedFrom offset runs).map Prod.snd = runs := by
  induction runs generalizing offset with
  | nil => rfl
  | cons run runs ih => rw [placedFrom, List.map_cons, ih]

theorem le_of_mem_placedFrom {runs : List (List Char)} {start : Nat} {placed : Nat × List Char}
    (hplaced : placed ∈ placedFrom start runs) : start ≤ placed.1 := by
  induction runs generalizing start with
  | nil => cases hplaced
  | cons run runs ih =>
    rcases List.mem_cons.mp hplaced with rfl | hplaced
    · exact Nat.le_refl _
    · exact Nat.le_trans (Nat.le_add_right ..) (ih hplaced)

theorem pairwise_placedFrom (start : Nat) (runs : List (List Char)) :
    (placedFrom start runs).Pairwise fun p q => p.1 + (Text.bytesOf p.2).length ≤ q.1 := by
  induction runs generalizing start with
  | nil => exact .nil
  | cons run runs ih => exact .cons (fun _ hq => le_of_mem_placedFrom hq) (ih _)

/-- The runs of a text stand at the offsets of its maximal runs. -/
theorem mem_placedFrom_runs_iff {cs run : List Char} {start offset : Nat} :
    (offset, run) ∈ placedFrom start (runs cs) ↔
      ∃ kind front rest, MaximalRun cs kind front run rest ∧
        offset = start + (Text.bytesOf front).length := by
  induction cs using run_induction generalizing start with
  | nil =>
    simp [runs, placedFrom, not_maximalRun_nil]
  | run kind first after hne hfirst hafter ih =>
    rw [runs_run_append hne hfirst hafter, placedFrom, List.mem_cons, ih]
    simp only [maximalRun_run_append_iff hne hfirst hafter]
    constructor
    · rintro (heq | ⟨kind', front, rest, h, rfl⟩)
      · obtain ⟨rfl, rfl⟩ := Prod.mk.inj heq
        exact ⟨kind, [], after, .inl ⟨rfl, rfl, rfl, rfl⟩, rfl⟩
      · refine ⟨kind', first ++ front, rest, .inr ⟨front, rfl, h⟩, ?_⟩
        rw [Text.bytesOf_append, List.length_append, Nat.add_assoc]
    · rintro ⟨kind', front, rest, (⟨rfl, rfl, rfl, rfl⟩ | ⟨front', rfl, h⟩), rfl⟩
      · exact .inl rfl
      · refine .inr ⟨kind', front', rest, h, ?_⟩
        rw [Text.bytesOf_append, List.length_append, Nat.add_assoc]

end JdkCatalog.Version
