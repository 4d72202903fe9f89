import JdkCatalog.Toml.Value

/-!
# Tables in the making

The statements of a document build one table.  A table may be built up in
several places only in some ways, which depend on how it began: what a header
has opened can be opened by no other header, what a dotted key has begun can
be continued by dotted keys of the same table only, and a value can not be
continued at all.  No change gives a name twice to a table
(`keepsDistinct_assign`, `keepsDistinct_openTable`, `keepsDistinct_openElement`).
-/

namespace JdkCatalog.Toml

/-- How a table began. -/
inductive Origin where
  /-- With its own header, or as the whole document. -/
  | header
  /-- On the way to what a header opens. -/
  | way
  /-- On the way to what a dotted key names. -/
  | dotted
deriving DecidableEq

/-- What a name stands for while a table is being built. -/
inductive Node where
  | value (v : Value)
  | table (origin : Origin) (entries : List (String × Node))
  /-- The tables that headers of one array have opened. -/
  | tables (earlier : List (List (String × Node))) (last : List (String × Node))

/-- The entries of a table in the making. -/
abbrev Entries := List (String × Node)

namespace Entries

/-- Puts an entry in the place of the one with its name, or at the end. -/
def put (name : String) (node : Node) : Entries → Entries
  | [] => [(name, node)]
  | (name', node') :: entries =>
    if name = name' then (name, node) :: entries else (name', node') :: put name node entries

/-- The names of a table. -/
def names (entries : Entries) : List String :=
  entries.map Prod.fst

theorem names_append (entries entries' : Entries) :
    names (entries ++ entries') = names entries ++ names entries' :=
  List.map_append

theorem not_mem_names_of_lookup {name : String} {entries : Entries}
    (h : entries.lookup name = none) : name ∉ names entries := by
  intro hn
  obtain ⟨entry, he, rfl⟩ := List.mem_map.mp hn
  have hne := List.lookup_eq_none_iff.mp h entry he
  simp at hne

theorem nodup_names_append {name : String} {entries : Entries} (node : Node)
    (h : (names entries).Nodup) (hn : name ∉ names entries) :
    (names (entries ++ [(name, node)])).Nodup := by
  rw [names_append, List.nodup_append]
  refine ⟨h, by simp [names], fun a ha b hb => ?_⟩
  rw [show b = name by simpa [names] using hb]
  rintro rfl
  exact hn ha

theorem mem_names_put {name name' : String} {node : Node} {entries : Entries} :
    name' ∈ names (put name node entries) ↔ name' = name ∨ name' ∈ names entries := by
  induction entries with
  | nil => simp [put, names]
  | cons entry entries ih =>
    rw [put]
    split
    next h => simp [names, h]
    next =>
      simp only [names, List.map_cons, List.mem_cons] at ih ⊢
      rw [ih]
      exact or_left_comm

theorem nodup_names_put (name : String) (node : Node) {entries : Entries}
    (h : (names entries).Nodup) : (names (put name node entries)).Nodup := by
  induction entries with
  | nil => simp [put, names]
  | cons entry entries ih =>
    obtain ⟨hne, htl⟩ := List.nodup_cons.mp h
    rw [put]
    split
    next he => exact he ▸ h
    next he =>
      refine List.nodup_cons.mpr ⟨fun hm => ?_, ih htl⟩
      rcases mem_names_put.mp hm with h' | h'
      · exact he h'.symm
      · exact hne h'

/-- Removes the entry with a name. -/
def remove (name : String) (entries : Entries) : Entries :=
  entries.filter (·.1 != name)

theorem nodup_names_remove (name : String) {entries : Entries} (h : (names entries).Nodup) :
    (names (remove name entries)).Nodup :=
  h.sublist (List.filter_sublist.map Prod.fst)

theorem not_mem_names_remove (name : String) (entries : Entries) :
    name ∉ names (remove name entries) := by
  simp [names, remove]

/-- A change to a table. -/
abbrev Change := Origin → Entries → Option Entries

/-- Changes the table that a path leads to, where the path belongs to a dotted
key or to a header.  Tables that are missing on the way are made; an array of
tables leads to its last one; a dotted key does not lead into what a header
has opened. -/
def within (isDotted : Bool) (change : Change) : (path : List String) → Change
  | [], origin, entries => change origin entries
  | name :: path, _, entries =>
    match entries.lookup name with
    | none =>
      let origin := if isDotted then Origin.dotted else Origin.way
      (within isDotted change path origin []).map fun inner =>
        put name (.table origin inner) entries
    | some (.table origin inner) =>
      if isDotted && origin = .header then
        none
      else
        (within isDotted change path origin inner).map fun inner =>
          put name (.table origin inner) entries
    | some (.tables earlier last) =>
      (within isDotted change path .header last).map fun last =>
        put name (.tables earlier last) entries
    | some (.value _) => none

/-- A change leaves no name twice where none was twice. -/
def Change.KeepsDistinct (change : Change) : Prop :=
  ∀ origin entries entries', change origin entries = some entries' →
    (names entries).Nodup → (names entries').Nodup

theorem keepsDistinct_within (isDotted : Bool) {change : Change} (h : change.KeepsDistinct)
    (path : List String) : Change.KeepsDistinct (within isDotted change path) := by
  intro origin entries entries' he hd
  cases path with
  | nil => exact h origin entries entries' he hd
  | cons name path =>
    rw [within] at he
    split at he
    · obtain ⟨inner, -, rfl⟩ := Option.map_eq_some_iff.mp he
      exact nodup_names_put _ _ hd
    · split at he
      · cases he
      · obtain ⟨inner, -, rfl⟩ := Option.map_eq_some_iff.mp he
        exact nodup_names_put _ _ hd
    · obtain ⟨last, -, rfl⟩ := Option.map_eq_some_iff.mp he
      exact nodup_names_put _ _ hd
    · cases he

/-- Gives a value to a new name at the end of a dotted key.  The table there
has to be of the key's making, and without a path the one that is open. -/
def assign (path : List String) (name : String) (v : Value) : Change :=
  within true (fun origin entries =>
    if (origin = .dotted) = path.isEmpty ∨ (entries.lookup name).isSome then
      none
    else
      some (entries ++ [(name, .value v)])) path

/-- Opens a table with a header.  It is new, or has only been on the way to
other ones, and becomes the last. -/
def openTable (path : List String) (name : String) : Change :=
  within false (fun _ entries =>
    match entries.lookup name with
    | none => some (entries ++ [(name, .table .header [])])
    | some (.table .way inner) => some (remove name entries ++ [(name, .table .header inner)])
    | some _ => none) path

/-- Opens a further table of an array with a header. -/
def openElement (path : List String) (name : String) : Change :=
  within false (fun _ entries =>
    match entries.lookup name with
    | none => some (entries ++ [(name, .tables [] [])])
    | some (.tables earlier last) => some (put name (.tables (earlier ++ [last]) []) entries)
    | some _ => none) path

theorem keepsDistinct_assign (path : List String) (name : String) (v : Value) :
    (assign path name v).KeepsDistinct := by
  refine keepsDistinct_within true (fun origin entries entries' he hd => ?_) path
  split at he
  · cases he
  · next hn =>
    cases he
    refine nodup_names_append _ hd (not_mem_names_of_lookup ?_)
    exact Option.not_isSome_iff_eq_none.mp fun hs => hn (.inr hs)

theorem keepsDistinct_openTable (path : List String) (name : String) :
    (openTable path name).KeepsDistinct := by
  refine keepsDistinct_within false (fun origin entries entries' he hd => ?_) path
  split at he
  · next hn =>
    cases he
    exact nodup_names_append _ hd (not_mem_names_of_lookup hn)
  · cases he
    exact nodup_names_append _ (nodup_names_remove name hd) (not_mem_names_remove name entries)
  · cases he

theorem keepsDistinct_openElement (path : List String) (name : String) :
    (openElement path name).KeepsDistinct := by
  refine keepsDistinct_within false (fun origin entries entries' he hd => ?_) path
  split at he
  · next hn =>
    cases he
    exact nodup_names_append _ hd (not_mem_names_of_lookup hn)
  · cases he
    exact nodup_names_put _ _ hd
  · cases he

end Entries

/-- The value of a name once the table is built. -/
def Node.finish : Node → Value
  | value v => v
  | table _ entries => .table (entriesValue entries)
  | tables earlier last => .array (tablesValue earlier ++ [.table (entriesValue last)])
where
  /-- The entries of a table. -/
  entriesValue : Entries → List (String × Value)
    | [] => []
    | (name, node) :: entries => (name, node.finish) :: entriesValue entries
  /-- The tables of an array. -/
  tablesValue : List Entries → List Value
    | [] => []
    | entries :: others => .table (entriesValue entries) :: tablesValue others

/-- The entries of a table that has been built. -/
def Entries.finish (entries : Entries) : List (String × Value) :=
  Node.finish.entriesValue entries

theorem Entries.finish_eq_map (entries : Entries) :
    entries.finish = entries.map fun (name, node) => (name, node.finish) := by
  induction entries with
  | nil => rfl
  | cons entry entries ih =>
    rw [List.map_cons, ← ih]
    rfl

end JdkCatalog.Toml
