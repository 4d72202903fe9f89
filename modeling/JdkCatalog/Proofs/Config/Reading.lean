import JdkCatalog.Config.OfToml
import JdkCatalog.Proofs.BuildNumber.RoundTrip

/-!
# Which tables are configurations

A configuration is read from the table of a document, entry by entry.  This module
says which tables are read, as which configurations, and what is reported about the
others, in terms of which entries a table has and not of the way they are looked up.

* `StatedBy` relates a configuration to the table that states it, and `TableFault`
  says what is wrong with a table.  `ofTable_eq_ok_iff` and its companions say that
  these are the results of the reading.
* `withKey` changes the field of one key.  `ofTable_insert` says that this is what a
  further entry does, to the result as a whole.
* `reading_of_table` puts it together for the text of a document.
-/

namespace JdkCatalog

theorem BuildNumber.input_of_parse_eq_error {s : String} {e : Malformed}
    (h : parse s = .error e) : e.input = s := by
  unfold parse at h
  dsimp only at h
  split at h
  · cases h
    rfl
  · split at h
    · cases h
    · cases h
      rfl

namespace Config

/-! ## Settings -/

/-- An entry that a configuration may have: a text under one of its keys. -/
def IsSetting (entry : String × Toml.Value) : Prop :=
  entry.1 ∈ keys ∧ ∃ s, entry.2 = .string s

/-- What is wrong with an entry. -/
inductive Offence : String × Toml.Value → TableError → Prop where
  | unknownKey {key : String} {value : Toml.Value} (hkey : key ∉ keys) :
      Offence (key, value) (.unknownKey key)
  | notAString {key : String} {value : Toml.Value} (hkey : key ∈ keys)
      (hvalue : ∀ s, value ≠ .string s) : Offence (key, value) (.notAString value)

theorem setting_of_string {key s : String} (hkey : key ∈ keys) :
    setting (key, .string s) = .ok (key, s) :=
  if_pos hkey

theorem setting_of_offence {entry : String × Toml.Value} {e : TableError}
    (h : Offence entry e) : setting entry = .error e := by
  cases h with
  | unknownKey hkey => exact if_neg hkey
  | @notAString key value hkey hvalue =>
    cases value with
    | string s => exact absurd rfl (hvalue s)
    | _ => exact if_pos hkey

/-- An entry is a setting or offends. -/
theorem isSetting_or_offence (entry : String × Toml.Value) :
    (∃ key s, entry = (key, .string s) ∧ key ∈ keys) ∨ ∃ e, Offence entry e := by
  obtain ⟨key, value⟩ := entry
  by_cases hkey : key ∈ keys
  · cases value with
    | string s => exact .inl ⟨key, s, rfl, hkey⟩
    | _ => exact .inr ⟨_, .notAString hkey nofun⟩
  · exact .inr ⟨_, .unknownKey hkey⟩

theorem setting_eq_ok_iff {entry : String × Toml.Value} {key s : String} :
    setting entry = .ok (key, s) ↔ entry = (key, .string s) ∧ key ∈ keys := by
  constructor
  · intro h
    rcases isSetting_or_offence entry with ⟨key', s', rfl, hkey⟩ | ⟨e, hoffence⟩
    · rw [setting_of_string hkey] at h
      cases h
      exact ⟨rfl, hkey⟩
    · cases (setting_of_offence hoffence).symm.trans h
  · rintro ⟨rfl, hkey⟩
    exact setting_of_string hkey

theorem setting_eq_error_iff {entry : String × Toml.Value} {e : TableError} :
    setting entry = .error e ↔ Offence entry e := by
  constructor
  · intro h
    rcases isSetting_or_offence entry with ⟨key, s, rfl, hkey⟩ | ⟨e', hoffence⟩
    · cases (setting_of_string hkey).symm.trans h
    · cases (setting_of_offence hoffence).symm.trans h
      exact hoffence
  · exact setting_of_offence

/-! ## Results of the entries -/

/-- The entry of a table that makes a setting. -/
def entryOf (setting : String × String) : String × Toml.Value :=
  (setting.1, .string setting.2)

theorem mapM_setting_eq_ok_iff {entries : List (String × Toml.Value)}
    {settings : List (String × String)} :
    entries.mapM setting = .ok settings ↔
      entries = settings.map entryOf ∧ ∀ setting ∈ settings, setting.1 ∈ keys := by
  induction entries generalizing settings with
  | nil =>
    cases settings <;> simp [pure, Except.pure]
  | cons entry entries ih =>
    rw [List.mapM_cons]
    constructor
    · intro h
      cases hentry : setting entry with
      | error e =>
        rw [hentry] at h
        cases h
      | ok first =>
        cases hentries : entries.mapM setting with
        | error e =>
          rw [hentry, hentries] at h
          cases h
        | ok others =>
          rw [hentry, hentries] at h
          cases h
          obtain ⟨hfirst, hkey⟩ := setting_eq_ok_iff.mp hentry
          obtain ⟨hothers, hkeys⟩ := ih.mp hentries
          exact ⟨by rw [hfirst, hothers]; rfl, List.forall_mem_cons.mpr ⟨hkey, hkeys⟩⟩
    · rintro ⟨h, hkeys⟩
      cases settings with
      | nil => cases h
      | cons first others =>
        obtain ⟨hkey, hkeys⟩ := List.forall_mem_cons.mp hkeys
        obtain ⟨rfl, rfl⟩ := List.cons.inj h
        have hfirst : setting (entryOf first) = .ok first := setting_of_string hkey
        rw [hfirst, ih.mpr ⟨rfl, hkeys⟩]
        rfl

theorem exists_mapM_setting_eq_ok_iff {entries : List (String × Toml.Value)} :
    (∃ settings, entries.mapM setting = .ok settings) ↔ ∀ entry ∈ entries, IsSetting entry := by
  constructor
  · rintro ⟨settings, h⟩
    obtain ⟨rfl, hkeys⟩ := mapM_setting_eq_ok_iff.mp h
    exact List.forall_mem_map.mpr fun setting hsetting => ⟨hkeys setting hsetting, _, rfl⟩
  · intro h
    induction entries with
    | nil => exact ⟨[], rfl⟩
    | cons entry entries ih =>
      obtain ⟨⟨hkey, s, hs⟩, hentries⟩ := List.forall_mem_cons.mp h
      obtain ⟨settings, hsettings⟩ := ih hentries
      have hentry : setting entry = .ok (entry.1, s) := by
        rw [← setting_of_string hkey, ← hs]
      refine ⟨(entry.1, s) :: settings, ?_⟩
      rw [List.mapM_cons, hentry, hsettings]
      rfl

/-- The first entry that offends is reported. -/
theorem mapM_setting_eq_error_iff {entries : List (String × Toml.Value)} {e : TableError} :
    entries.mapM setting = .error e ↔
      ∃ before entry after, entries = before ++ entry :: after ∧
        (∀ earlier ∈ before, IsSetting earlier) ∧ Offence entry e := by
  constructor
  · intro h
    induction entries with
    | nil => cases h
    | cons entry entries ih =>
      rw [List.mapM_cons] at h
      cases hentry : setting entry with
      | error first =>
        rw [hentry] at h
        cases h
        exact ⟨[], entry, entries, rfl, nofun, setting_eq_error_iff.mp hentry⟩
      | ok first =>
        obtain ⟨rfl, hkey⟩ := setting_eq_ok_iff.mp hentry
        cases hentries : entries.mapM setting with
        | ok others =>
          rw [hentry, hentries] at h
          cases h
        | error first =>
          rw [hentry, hentries] at h
          cases h
          obtain ⟨before, offender, after, rfl, hbefore, hoffence⟩ := ih hentries
          refine ⟨_ :: before, offender, after, rfl, ?_, hoffence⟩
          exact List.forall_mem_cons.mpr ⟨⟨hkey, _, rfl⟩, hbefore⟩
  · rintro ⟨before, entry, after, rfl, hbefore, hoffence⟩
    obtain ⟨settings, hsettings⟩ := exists_mapM_setting_eq_ok_iff.mpr hbefore
    rw [List.mapM_append, List.mapM_cons, hsettings, setting_eq_error_iff.mpr hoffence]
    rfl

/-! ## Looking up settings -/

theorem entryOf_injective {setting setting' : String × String}
    (h : entryOf setting = entryOf setting') : setting = setting' := by
  obtain ⟨key, s⟩ := setting
  obtain ⟨key', s'⟩ := setting'
  cases h
  rfl

theorem map_fst_map_entryOf (settings : List (String × String)) :
    (settings.map entryOf).map Prod.fst = settings.map Prod.fst := by
  rw [List.map_map]
  rfl

variable {settings : List (String × String)} {key : String}

/-- Where no key comes twice, what is found under a key is what stands with it. -/
theorem lookup_eq_some_iff_mem {s : String}
    (hnodup : ((settings.map entryOf).map Prod.fst).Nodup) :
    settings.lookup key = some s ↔ (key, .string s) ∈ settings.map entryOf := by
  rw [map_fst_map_entryOf] at hnodup
  rw [List.lookup_eq_some_iff]
  constructor
  · rintro ⟨before, after, rfl, -⟩
    exact List.mem_map_of_mem List.mem_append_cons_self
  · intro h
    obtain ⟨setting, hsetting, heq⟩ := List.mem_map.mp h
    obtain rfl : setting = (key, s) := entryOf_injective heq
    obtain ⟨before, after, rfl⟩ := List.append_of_mem hsetting
    refine ⟨before, after, rfl, fun earlier hearlier => ?_⟩
    rw [List.map_append, List.map_cons, List.nodup_append] at hnodup
    have hne := hnodup.2.2 earlier.1 (List.mem_map_of_mem hearlier) key List.mem_cons_self
    exact bne_iff_ne.mpr hne.symm

theorem lookup_eq_none_iff_notMem :
    settings.lookup key = none ↔ ∀ value, (key, value) ∉ settings.map entryOf := by
  rw [List.lookup_eq_none_iff]
  constructor
  · intro h value hvalue
    obtain ⟨setting, hsetting, heq⟩ := List.mem_map.mp hvalue
    obtain rfl : setting.1 = key := congrArg Prod.fst heq
    exact bne_iff_ne.mp (h setting hsetting) rfl
  · intro h setting hsetting
    refine bne_iff_ne.mpr fun heq => ?_
    subst heq
    exact h _ (List.mem_map_of_mem hsetting)

/-! ## Configurations that tables state -/

/-- A value is read from the text under a key, or is a default where a table does
not have the key. -/
def Gives {α : Type} (entries : List (String × Toml.Value)) (key : String) (read : String → α)
    (default value : α) : Prop :=
  (∃ s, (key, .string s) ∈ entries ∧ value = read s) ∨
    (∀ v, (key, v) ∉ entries) ∧ value = default

theorem gives_iff {α : Type} {read : String → α} {default value : α}
    (hnodup : ((settings.map entryOf).map Prod.fst).Nodup) :
    Gives (settings.map entryOf) key read default value ↔
      value = ((settings.lookup key).map read).getD default := by
  unfold Gives
  simp only [← lookup_eq_some_iff_mem hnodup, ← lookup_eq_none_iff_notMem]
  cases settings.lookup key <;> simp

/-- What is given is read from a text if the default is. -/
theorem Gives.exists_read {α : Type} {entries : List (String × Toml.Value)}
    {read : String → α} {default value : α} (h : Gives entries key read default value)
    (hdefault : ∃ s, read s = default) : ∃ s, read s = value := by
  rcases h with ⟨s, -, rfl⟩ | ⟨-, rfl⟩
  · exact ⟨s, rfl⟩
  · exact hdefault

/-- A configuration is what a table of a document says, key by key, with what the
table leaves out taken from the machine. -/
structure StatedBy (host : Host) (entries : List (String × Toml.Value)) (config : Config) :
    Prop where
  settings : ∀ entry ∈ entries, IsSetting entry
  build : ∃ s, ("build", .string s) ∈ entries ∧ BuildNumber.parse s = .ok config.build
  feedUrl : Gives entries "feed_url" id standardFeedUrl config.feedUrl
  os : Gives entries "os" Os.ofTag host.os config.os
  arch : Gives entries "arch" Arch.ofTag host.arch config.arch

/-- What is wrong with a table: the first entry that offends, or else that there is
no build. -/
inductive TableFault : List (String × Toml.Value) → TableError → Prop where
  | offence {before after : List (String × Toml.Value)} {entry : String × Toml.Value}
      {e : TableError} (hbefore : ∀ earlier ∈ before, IsSetting earlier)
      (hentry : Offence entry e) : TableFault (before ++ entry :: after) e
  | missingBuild {entries : List (String × Toml.Value)}
      (hsettings : ∀ entry ∈ entries, IsSetting entry)
      (hbuild : ∀ value, ("build", value) ∉ entries) : TableFault entries .missingBuild

/-- What the reading of a table can come to. -/
inductive Outcome (host : Host) (entries : List (String × Toml.Value)) :
    Except ReadError Config → Prop where
  | table {e : TableError} (h : TableFault entries e) : Outcome host entries (.error (.table e))
  /-- Only the text of the build is wrong. -/
  | build {s : String} {e : BuildNumber.Malformed} (hsettings : ∀ entry ∈ entries, IsSetting entry)
      (hbuild : ("build", .string s) ∈ entries) (he : BuildNumber.parse s = .error e) :
      Outcome host entries (.error (.build e))
  | read {config : Config} (h : config.StatedBy host entries) : Outcome host entries (.ok config)

/-! ## Reading a table -/

variable {host : Host} {entries : List (String × Toml.Value)}

/-- The settings of a table with a build state the configuration that they make. -/
theorem statedBy_ofSettings {s : String} {build : BuildNumber}
    (hnodup : ((settings.map entryOf).map Prod.fst).Nodup)
    (hsettings : ∀ entry ∈ settings.map entryOf, IsSetting entry)
    (hs : settings.lookup "build" = some s) (hbuild : BuildNumber.parse s = .ok build) :
    (ofSettings host build settings).StatedBy host (settings.map entryOf) where
  settings := hsettings
  build := ⟨s, (lookup_eq_some_iff_mem hnodup).mp hs, hbuild⟩
  feedUrl := (gives_iff hnodup).mpr (by rw [Option.map_id]; rfl)
  os := (gives_iff hnodup).mpr rfl
  arch := (gives_iff hnodup).mpr rfl

theorem outcome_ofTable (hnodup : (entries.map Prod.fst).Nodup) :
    Outcome host entries (ofTable host entries) := by
  unfold ofTable
  split
  next e he =>
    obtain ⟨before, entry, after, rfl, hbefore, hentry⟩ := mapM_setting_eq_error_iff.mp he
    exact .table (.offence hbefore hentry)
  next settings hsettings =>
    have hentries := exists_mapM_setting_eq_ok_iff.mp ⟨_, hsettings⟩
    obtain ⟨rfl, -⟩ := mapM_setting_eq_ok_iff.mp hsettings
    split
    next hnone => exact .table (.missingBuild hentries (lookup_eq_none_iff_notMem.mp hnone))
    next s hs =>
      split
      next e he => exact .build hentries ((lookup_eq_some_iff_mem hnodup).mp hs) he
      next build hbuild => exact .read (statedBy_ofSettings hnodup hentries hs hbuild)

theorem ofTable_eq_table_iff {e : TableError} (hnodup : (entries.map Prod.fst).Nodup) :
    ofTable host entries = .error (.table e) ↔ TableFault entries e := by
  constructor
  · intro h
    have houtcome : Outcome host entries (ofTable host entries) := outcome_ofTable hnodup
    rw [h] at houtcome
    cases houtcome with
    | table h => exact h
  · intro h
    cases h with
    | @offence before after entry e hbefore hentry =>
      have he : (before ++ entry :: after).mapM setting = .error e :=
        mapM_setting_eq_error_iff.mpr ⟨before, entry, after, rfl, hbefore, hentry⟩
      simp only [ofTable, he]
    | missingBuild hentries hbuild =>
      obtain ⟨settings, hsettings⟩ := exists_mapM_setting_eq_ok_iff.mpr hentries
      obtain ⟨rfl, -⟩ := mapM_setting_eq_ok_iff.mp hsettings
      simp only [ofTable, hsettings, lookup_eq_none_iff_notMem.mpr hbuild]

/-- A table of settings with a build is read up to the build. -/
theorem exists_settings {s : String} (hnodup : (entries.map Prod.fst).Nodup)
    (hentries : ∀ entry ∈ entries, IsSetting entry) (hs : ("build", .string s) ∈ entries) :
    ∃ settings, entries = settings.map entryOf ∧ entries.mapM setting = .ok settings ∧
      settings.lookup "build" = some s := by
  obtain ⟨settings, hsettings⟩ := exists_mapM_setting_eq_ok_iff.mpr hentries
  obtain ⟨rfl, -⟩ := mapM_setting_eq_ok_iff.mp hsettings
  exact ⟨settings, rfl, hsettings, (lookup_eq_some_iff_mem hnodup).mpr hs⟩

theorem ofTable_eq_build_iff {e : BuildNumber.Malformed} (hnodup : (entries.map Prod.fst).Nodup) :
    ofTable host entries = .error (.build e) ↔
      (∀ entry ∈ entries, IsSetting entry) ∧
        ∃ s, ("build", .string s) ∈ entries ∧ BuildNumber.parse s = .error e := by
  constructor
  · intro h
    have houtcome : Outcome host entries (ofTable host entries) := outcome_ofTable hnodup
    rw [h] at houtcome
    cases houtcome with
    | build hsettings hbuild he => exact ⟨hsettings, _, hbuild, he⟩
  · rintro ⟨hentries, s, hs, he⟩
    obtain ⟨settings, -, hsettings, hlookup⟩ := exists_settings hnodup hentries hs
    simp only [ofTable, hsettings, hlookup, he]

theorem ofTable_eq_ok_iff {config : Config} (hnodup : (entries.map Prod.fst).Nodup) :
    ofTable host entries = .ok config ↔ config.StatedBy host entries := by
  constructor
  · intro h
    have houtcome : Outcome host entries (ofTable host entries) := outcome_ofTable hnodup
    rw [h] at houtcome
    cases houtcome with
    | read h => exact h
  · intro h
    obtain ⟨s, hs, hbuild⟩ := h.build
    obtain ⟨settings, rfl, hsettings, hlookup⟩ := exists_settings hnodup h.settings hs
    have hconfig : ofSettings host config.build settings = config := by
      have hfeedUrl := (gives_iff hnodup).mp h.feedUrl
      rw [Option.map_id, id_eq] at hfeedUrl
      simp only [ofSettings, ← hfeedUrl, ← (gives_iff hnodup).mp h.os,
        ← (gives_iff hnodup).mp h.arch]
    simp only [ofTable, hsettings, hlookup, hbuild, hconfig]

theorem exists_ofTable_eq_ok_iff (hnodup : (entries.map Prod.fst).Nodup) :
    (∃ config, ofTable host entries = .ok config) ↔
      (∀ entry ∈ entries, IsSetting entry) ∧
        ∃ s build, ("build", .string s) ∈ entries ∧ BuildNumber.parse s = .ok build := by
  constructor
  · rintro ⟨config, h⟩
    obtain ⟨s, hs, hbuild⟩ := ((ofTable_eq_ok_iff hnodup).mp h).build
    exact ⟨((ofTable_eq_ok_iff hnodup).mp h).settings, s, config.build, hs, hbuild⟩
  · rintro ⟨hentries, s, build, hs, hbuild⟩
    obtain ⟨settings, -, hsettings, hlookup⟩ := exists_settings hnodup hentries hs
    exact ⟨ofSettings host build settings, by simp only [ofTable, hsettings, hlookup, hbuild]⟩

theorem ofTable_ne_notToml (hnodup : (entries.map Prod.fst).Nodup) :
    ofTable host entries ≠ .error .notToml := by
  intro h
  have houtcome : Outcome host entries (ofTable host entries) := outcome_ofTable hnodup
  rw [h] at houtcome
  cases houtcome

/-- Where a configuration is read there is a table that states it. -/
theorem exists_statedBy_of_ofToml {text : String} {config : Config}
    (h : ofToml host text = .ok config) :
    ∃ entries, Toml.read? text = some entries ∧ config.StatedBy host entries := by
  unfold ofToml at h
  split at h
  next => cases h
  next entries hread =>
    exact ⟨entries, hread, (ofTable_eq_ok_iff (Toml.nodup_of_read? hread)).mp h⟩

/-- A table of settings is known by them, and they are texts, of which equality can be
decided as it cannot of values. -/
theorem read?_eq_some_of_settings {text : String}
    (h : ((Toml.read? text).bind fun entries => (entries.mapM setting).toOption) =
      some settings) : Toml.read? text = some (settings.map entryOf) := by
  obtain ⟨entries, hentries, hsome⟩ := Option.bind_eq_some_iff.mp h
  cases hmapM : entries.mapM setting with
  | error e =>
    rw [hmapM] at hsome
    cases hsome
  | ok found =>
    rw [hmapM] at hsome
    cases hsome
    rw [hentries, ← (mapM_setting_eq_ok_iff.mp hmapM).1]

/-! ## Other tables -/

theorem StatedBy.of_perm {entries' : List (String × Toml.Value)} {config : Config}
    (h : config.StatedBy host entries) (hperm : entries.Perm entries') :
    config.StatedBy host entries' := by
  have hmem (entry : String × Toml.Value) : entry ∈ entries' ↔ entry ∈ entries :=
    hperm.mem_iff.symm
  obtain ⟨hsettings, hbuild, hfeedUrl, hos, harch⟩ := h
  constructor <;> simp only [Gives, hmem]
  · exact hsettings
  · exact hbuild
  · exact hfeedUrl
  · exact hos
  · exact harch

/-- A configuration with another text for a key that may be left out. -/
def withKey (key s : String) (config : Config) : Config :=
  if key = "feed_url" then { config with feedUrl := s }
  else if key = "os" then { config with os := Os.ofTag s }
  else if key = "arch" then { config with arch := Arch.ofTag s }
  else config

theorem lookup_insert_of_ne {key' s : String} (hne : key' ≠ key)
    (before after : List (String × String)) :
    (before ++ (key, s) :: after).lookup key' = (before ++ after).lookup key' := by
  rw [List.lookup_append, List.lookup_append, List.lookup_cons, beq_false_of_ne hne]

theorem lookup_insert_self {s : String} {before : List (String × String)}
    (hnone : before.lookup key = none) (after : List (String × String)) :
    (before ++ (key, s) :: after).lookup key = some s := by
  rw [List.lookup_append, hnone, Option.none_or, List.lookup_cons_self]

theorem ofSettings_insert {s : String} {before : List (String × String)} {build : BuildNumber}
    (hkey : key ∈ ["feed_url", "os", "arch"]) (hnone : before.lookup key = none)
    (after : List (String × String)) :
    ofSettings host build (before ++ (key, s) :: after) =
      (ofSettings host build (before ++ after)).withKey key s := by
  simp only [List.mem_cons, List.not_mem_nil, or_false] at hkey
  rcases hkey with rfl | rfl | rfl <;>
    simp [ofSettings, withKey, lookup_insert_self hnone, lookup_insert_of_ne]

/-- A further text under a key that may be left out changes the field of that key, and
nothing in what is reported about the other entries. -/
theorem ofTable_insert {s : String} {before after : List (String × Toml.Value)}
    (hkey : key ∈ ["feed_url", "os", "arch"])
    (hnodup : ((before ++ (key, .string s) :: after).map Prod.fst).Nodup) :
    ofTable host (before ++ (key, .string s) :: after) =
      (ofTable host (before ++ after)).map (withKey key s) := by
  have hbuild : "build" ≠ key := by
    rintro rfl
    exact absurd hkey (by decide)
  have hsetting : setting (key, .string s) = .ok (key, s) := by
    refine setting_of_string ?_
    simp only [List.mem_cons, List.not_mem_nil, or_false] at hkey
    rcases hkey with rfl | rfl | rfl <;> decide
  have hmapM : (before ++ (key, .string s) :: after).mapM setting = (do
      let settings ← before.mapM setting
      let settings' ← after.mapM setting
      return settings ++ (key, s) :: settings') := by
    rw [List.mapM_append, List.mapM_cons, hsetting]
    cases before.mapM setting <;> cases after.mapM setting <;> rfl
  unfold ofTable
  rw [hmapM, List.mapM_append]
  cases hbefore : before.mapM setting with
  | error e => rfl
  | ok settings =>
    cases hafter : after.mapM setting with
    | error e => rfl
    | ok settings' =>
      obtain ⟨rfl, -⟩ := mapM_setting_eq_ok_iff.mp hbefore
      have hnone : settings.lookup key = none := by
        refine lookup_eq_none_iff_notMem.mpr fun value hvalue => ?_
        rw [List.map_append, List.map_cons, List.nodup_append] at hnodup
        exact hnodup.2.2 key (List.mem_map_of_mem hvalue) key List.mem_cons_self rfl
      simp only [bind, Except.bind, pure, Except.pure, lookup_insert_of_ne hbuild,
        ofSettings_insert hkey hnone]
      cases (settings ++ settings').lookup "build" with
      | none => rfl
      | some text => cases hparse : BuildNumber.parse text <;> simp only [hparse, Except.map]

/-! ## The result -/

/-- Of a text with a table, the reading is decided by the entries of the table.  It
succeeds exactly if all of them are settings and the build is a build number, with the
configuration that the table states, in whatever order its entries stand, and with one
more setting only the field of that setting changes.  Of several faults the first entry
that offends comes before a missing build, and both before a build that is wrong. -/
theorem reading_of_table {text : String} {entries : List (String × Toml.Value)}
    (hread : Toml.read? text = some entries) (host : Host) :
    ((∃ config, ofToml host text = .ok config) ↔
      (∀ entry ∈ entries, entry.1 ∈ ["feed_url", "build", "os", "arch"] ∧
        ∃ s, entry.2 = .string s) ∧
      ∃ s build, ("build", .string s) ∈ entries ∧ BuildNumber.parse s = .ok build) ∧
    (∀ config, ofToml host text = .ok config ↔ config.StatedBy host entries) ∧
    (∀ config, ofToml host text = .ok config →
      config.context = ⟨config.build, config.os, config.arch⟩) ∧
    (∀ text' entries', Toml.read? text' = some entries' → entries.Perm entries' →
      ∀ config, ofToml host text = .ok config ↔ ofToml host text' = .ok config) ∧
    (∀ text' before after key s, Toml.read? text' = some (before ++ (key, .string s) :: after) →
      entries = before ++ after → key ∈ ["feed_url", "os", "arch"] →
      ofToml host text' = (ofToml host text).map (withKey key s)) ∧
    (∀ e, ofToml host text = .error (.build e) ↔
      (∀ entry ∈ entries, IsSetting entry) ∧
        ("build", .string e.input) ∈ entries ∧ BuildNumber.parse e.input = .error e) ∧
    (∀ e, ofToml host text = .error (.table e) ↔ TableFault entries e) ∧
    ofToml host text ≠ .error .notToml := by
  have hnodup := Toml.nodup_of_read? hread
  have hofToml {text' : String} {entries' : List (String × Toml.Value)}
      (hread' : Toml.read? text' = some entries') :
      ofToml host text' = ofTable host entries' := by
    simp only [ofToml, hread']
  rw [hofToml hread]
  refine ⟨exists_ofTable_eq_ok_iff hnodup, fun config => ofTable_eq_ok_iff hnodup,
    fun config _ => rfl, ?perm, ?insert, fun e => ?build, fun e => ofTable_eq_table_iff hnodup,
    ofTable_ne_notToml hnodup⟩
  case perm =>
    intro text' entries' hread' hperm config
    rw [hofToml hread', ofTable_eq_ok_iff hnodup,
      ofTable_eq_ok_iff (Toml.nodup_of_read? hread')]
    exact ⟨fun h => h.of_perm hperm, fun h => h.of_perm hperm.symm⟩
  case insert =>
    rintro text' before after key s hread' rfl hkey
    rw [hofToml hread']
    exact ofTable_insert hkey (Toml.nodup_of_read? hread')
  case build =>
    rw [ofTable_eq_build_iff hnodup]
    constructor
    · rintro ⟨hentries, s, hs, he⟩
      obtain rfl : e.input = s := BuildNumber.input_of_parse_eq_error he
      exact ⟨hentries, hs, he⟩
    · rintro ⟨hentries, hs, he⟩
      exact ⟨hentries, e.input, hs, he⟩

/-- What a table does not say is taken from the machine, and the tag of the system is
read in any spelling. -/
theorem reading_of_system_and_build :
    Toml.read? "os = \"Darwin\"\nbuild = \"241.1\"\n" =
      some [("os", .string "Darwin"), ("build", .string "241.1")] ∧
    ofToml ⟨.linux, .x86_64⟩ "os = \"Darwin\"\nbuild = \"241.1\"\n" =
      .ok ⟨standardFeedUrl, ⟨none, [241, 1], List.cons_ne_nil _ _⟩, .macOs, .x86_64⟩ := by
  have hread : Toml.read? "os = \"Darwin\"\nbuild = \"241.1\"\n" =
      some [("os", .string "Darwin"), ("build", .string "241.1")] :=
    read?_eq_some_of_settings (by decide +kernel : _ = some [("os", "Darwin"), ("build", "241.1")])
  have htext : BuildNumber.text ⟨none, [241, 1], List.cons_ne_nil _ _⟩ = "241.1" := by decide
  refine ⟨hread, ((reading_of_table hread _).2.1 _).mpr ?_⟩
  exact {
    settings := by simp [IsSetting, keys]
    build := ⟨"241.1", by simp, htext ▸ BuildNumber.parse_text _⟩
    feedUrl := .inr ⟨by simp, rfl⟩
    os := .inl ⟨"Darwin", by simp, by decide +kernel⟩
    arch := .inr ⟨by simp, rfl⟩ }

end Config

end JdkCatalog
