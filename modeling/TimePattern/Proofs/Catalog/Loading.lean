import TimePattern.Catalog.Load
import TimePattern.Proofs.Catalog.Lookup
import TimePattern.Proofs.Toml.DistinctKeys

/-!
# Loading as a whole

A document is loaded as a whole or not at all: each entry of its table of formats has to stand for a
pattern, and then the catalog holds just these patterns under just these names. In what order the
entries stand does not matter, since no two of them have the same name.

## Key results

- `configures_iff`: the values that stand for a pattern
- `get?_ofList`: what a catalog of a list holds, if no name occurs twice
- `lookup_rel_of_load`: what is held under each name after loading
- `load_allOrNothing`: which documents are loaded, and what the catalog then holds
-/

namespace TimePattern

/-! ## Values that stand for patterns -/

/-- What a value under `formats` stands for: a text for what it denotes in mnemonic notation, and a
    table for the preset whose name stands under the key `preset`, letter by letter. The other keys
    of the table do not matter. -/
inductive Catalog.Configures : Toml.Value → Pattern → Prop
  | mnemonic (text : List Char) : Configures (.string text) (Mnemonic.compile text)
  | preset {origin : Toml.Origin} {entries : Toml.Entries} (p : Preset)
      (h : entries.lookup "preset" = some (.string p.name.toList)) :
      Configures (.table origin entries) p.pattern

/-- A preset is found under its name and under no other. -/
theorem Preset.ofName?_eq_some_iff {name : String} {p : Preset} :
    ofName? name = some p ↔ name = p.name := by
  constructor
  · intro h
    -- The search compares names, so that what it finds has the name
    have hname := List.find?_some h
    simpa using (of_decide_eq_true hname).symm
  · rintro rfl
    exact ofName?_name p

/-- What is found in the settings of a table is the setting of what is found in the table. -/
theorem Setting.lookup_ofEntries (key : String) (entries : Toml.Entries) :
    (Setting.ofEntries entries).lookup key = (entries.lookup key).map Setting.ofToml := by
  induction entries with
  | nil => rfl
  | cons e entries ih =>
    obtain ⟨k, v⟩ := e
    rw [Setting.ofEntries, Catalog.lookup_entry, Catalog.lookup_entry, ih]
    split <;> rfl

/-- Of the values of a document only a text names a preset. -/
theorem Source.presetOfSetting?_ofToml_eq_some_iff {v : Toml.Value} {p : Preset} :
    presetOfSetting? (.ofToml v) = some p ↔ v = .string p.name.toList := by
  cases v with
  | string text =>
    show Preset.ofName? (String.ofList text) = some p ↔ _
    rw [Preset.ofName?_eq_some_iff, Toml.Value.string.injEq, ← String.toList_inj,
      String.toList_ofList]
  | table origin entries =>
    -- No value of a document says that there is none
    refine iff_of_false ?_ nofun
    cases entries with
    | nil => exact nofun
    | cons e entries =>
      obtain ⟨k, w⟩ := e
      cases entries with
      | nil => cases w <;> exact nofun
      | cons e' entries =>
        obtain ⟨k', w'⟩ := e'
        cases w <;> exact nofun
  | _ => exact iff_of_false nofun nofun

/-- A table denotes what the value under its key `preset` denotes. -/
theorem Source.ofSetting?_table (origin : Toml.Origin) (entries : Toml.Entries) :
    ofSetting? (.ofToml (.table origin entries)) =
      ((entries.lookup "preset").bind fun v => presetOfSetting? (.ofToml v)).map .preset := by
  rw [Setting.ofToml, ofSetting?, Setting.lookup_ofEntries, Option.bind_map]
  rfl

namespace Catalog

/-- The values that stand for a pattern are those that denote a source. -/
theorem configures_iff {v : Toml.Value} {p : Pattern} :
    Configures v p ↔
      ∃ source, Source.ofSetting? (.ofToml v) = some source ∧ source.pattern = p := by
  constructor
  · intro h
    cases h with
    | mnemonic text => exact ⟨.mnemonic text, rfl, rfl⟩
    | preset q h =>
      refine ⟨.preset q, ?_, rfl⟩
      have hpreset := (Source.presetOfSetting?_ofToml_eq_some_iff (p := q)).2 rfl
      rw [Source.ofSetting?_table, h, Option.bind_some, hpreset]
      rfl
  · intro h
    obtain ⟨source, hsource, rfl⟩ := h
    cases v with
    | string text =>
      cases hsource
      exact .mnemonic text
    | table origin entries =>
      rw [Source.ofSetting?_table] at hsource
      obtain ⟨q, hq, rfl⟩ := Option.map_eq_some_iff.1 hsource
      obtain ⟨w, hw, hq⟩ := Option.bind_eq_some_iff.1 hq
      -- The setting under the key `preset` names a preset, so the value there is its name
      rw [Source.presetOfSetting?_ofToml_eq_some_iff.1 hq] at hw
      exact .preset q hw
    | _ => cases hsource

/-- A value stands for one pattern at most. -/
theorem Configures.unique {v : Toml.Value} {p q : Pattern} (hp : Configures v p)
    (hq : Configures v q) : p = q := by
  obtain ⟨source, hsource, rfl⟩ := configures_iff.1 hp
  obtain ⟨source', hsource', rfl⟩ := configures_iff.1 hq
  rw [hsource, Option.some.injEq] at hsource'
  rw [hsource']

/-! ## All entries -/

/-- Patterns are found for entries if they correspond one by one. -/
theorem patterns?_eq_some_iff {entries : Toml.Entries} {ps : List (String × Pattern)} :
    patterns? (Setting.ofEntries entries) = some ps ↔
      List.Forall₂ (fun e p => e.1 = p.1 ∧ Configures e.2 p.2) entries ps := by
  induction entries generalizing ps with
  | nil => simp [patterns?, Setting.ofEntries, eq_comm]
  | cons e entries ih =>
    obtain ⟨name, v⟩ := e
    rw [patterns?] at ih
    rw [patterns?, Setting.ofEntries, List.mapM_cons]
    simp only [Option.pure_def, Option.bind_eq_bind, Option.bind_eq_some_iff,
      Option.map_eq_some_iff, ih, Option.some.injEq]
    -- One entry and the rest, in both directions
    constructor
    · rintro ⟨_, ⟨source, hsource, rfl⟩, ps, hps, rfl⟩
      exact .cons ⟨rfl, configures_iff.2 ⟨source, hsource, rfl⟩⟩ hps
    · intro h
      cases h with
      | @cons _ p _ ps hp hps =>
        obtain ⟨name', p⟩ := p
        obtain ⟨rfl, hp⟩ := hp
        obtain ⟨source, hsource, rfl⟩ := configures_iff.1 hp
        exact ⟨_, ⟨source, hsource, rfl⟩, ps, hps, rfl⟩

/-- Patterns are found for a list of entries just if one is found for each. -/
theorem exists_patterns?_iff {entries : Toml.Entries} :
    (∃ ps, patterns? (Setting.ofEntries entries) = some ps) ↔
      ∀ e ∈ entries, ∃ p, Configures e.2 p := by
  simp only [patterns?_eq_some_iff]
  induction entries with
  | nil => exact iff_of_true ⟨[], .nil⟩ (List.forall_mem_nil _)
  | cons e entries ih =>
    -- A pattern for the first entry, and patterns for the others
    rw [List.forall_mem_cons, ← ih]
    constructor
    · rintro ⟨_, h⟩
      cases h with
      | cons hp hps => exact ⟨⟨_, hp.2⟩, _, hps⟩
    · rintro ⟨⟨p, hp⟩, ps, hps⟩
      exact ⟨(e.1, p) :: ps, .cons ⟨rfl, hp⟩ hps⟩

/-- If no name occurs twice, nothing in a list of named patterns takes the place of another. -/
theorem get?_foldl_insert {ps : List (String × Pattern)} (hnames : (ps.map Prod.fst).Nodup)
    (c : Catalog) (name : String) :
    (ps.foldl (fun c e => c.insert e.1 e.2) c).get? name = (ps.lookup name).or (c.get? name) := by
  induction ps generalizing c with
  | nil => rfl
  | cons e ps ih =>
    obtain ⟨k, p⟩ := e
    rw [List.map_cons, List.nodup_cons] at hnames
    rw [List.foldl_cons, ih hnames.2, get?_insert, lookup_entry]
    by_cases hname : name = k
    · -- The pattern that was put there first is still there
      have hnone : ps.lookup name = none := by
        rw [List.lookup_eq_none_iff]
        intro e he
        rw [bne_iff_ne]
        rintro rfl
        exact hnames.1 (List.mem_map.2 ⟨e, he, hname⟩)
      rw [if_pos hname, if_pos hname, hnone]
      rfl
    · rw [if_neg hname, if_neg hname]

/-- A catalog made of a list holds what is found in the list, if no name occurs twice. -/
theorem get?_ofList {ps : List (String × Pattern)} (hnames : (ps.map Prod.fst).Nodup)
    (name : String) : (ofList ps).get? name = ps.lookup name := by
  rw [ofList, get?_foldl_insert hnames, get?_empty, Option.or_none]

/-! ## Documents -/

/-- The entries of the table of formats in a document's root table: none if there is no such table.
    It is `none` if something other than a table stands in its place. -/
def formats? (root : Toml.Entries) : Option Toml.Entries :=
  match root.lookup "formats" with
  | none => some []
  | some (.table _ entries) => some entries
  | some _ => none

/-- The table of formats has no key twice, since the document has none. -/
theorem distinct_formats {root entries : Toml.Entries} (hroot : root.Distinct)
    (h : formats? root = some entries) : entries.Distinct := by
  unfold formats? at h
  split at h
  · cases h
    exact Toml.Entries.distinct_nil
  · next hlookup =>
    cases h
    exact Toml.Entries.distinct_table_iff.1 (hroot.of_lookup hlookup)
  · cases h

/-- A catalog is made of the entries of the table of formats and of nothing else. -/
theorem ofToml?_eq {root entries : Toml.Entries} (h : formats? root = some entries) :
    ofToml? root = (patterns? (Setting.ofEntries entries)).map ofList := by
  unfold formats? at h
  rw [ofToml?]
  split at h
  · -- No table of formats is as good as an empty one
    next hlookup =>
    cases h
    rw [hlookup]
    rfl
  · next hlookup =>
    cases h
    rw [hlookup]
    rfl
  · cases h

section Load

variable {text : List Char} {root entries : Toml.Entries} (hparse : Toml.parse text = some root)
  (hformats : formats? root = some entries) {c : Catalog}
include hparse hformats

/-- Loading succeeds just if there are patterns for all entries, and the catalog is made of these.
    -/
theorem load_eq_ok_iff :
    load text = .ok c ↔
      ∃ ps, patterns? (Setting.ofEntries entries) = some ps ∧ ofList ps = c := by
  -- The document and its table of formats are known, so only the entries can make it fail
  rw [load, hparse, Option.bind_some, ofToml?_eq hformats]
  cases patterns? (Setting.ofEntries entries) <;> simp

/-- Loading succeeds just if every entry stands for a pattern. -/
theorem exists_load_iff :
    (∃ c, load text = .ok c) ↔ ∀ e ∈ entries, ∃ p, Configures e.2 p := by
  rw [← exists_patterns?_iff]
  simp only [load_eq_ok_iff hparse hformats]
  constructor
  · rintro ⟨_, ps, hps, -⟩
    exact ⟨ps, hps⟩
  · rintro ⟨ps, hps⟩
    exact ⟨_, ps, hps, rfl⟩

/-- A catalog that is loaded holds under each name what the entry of this name stands for. -/
theorem lookup_rel_of_load (h : load text = .ok c) (name : String) :
    Option.Rel Configures (entries.lookup name) (c.get? name) := by
  obtain ⟨ps, hps, rfl⟩ := (load_eq_ok_iff hparse hformats).1 h
  have hforall := patterns?_eq_some_iff.1 hps
  -- The names of the patterns are the keys of the table, and those are distinct
  have hkeys := (distinct_formats (Toml.distinct_parse hparse) hformats).keys
  rw [names_eq_of_forall₂ hforall] at hkeys
  rw [get?_ofList hkeys]
  exact lookup_rel_of_forall₂ hforall name

/-- Under the name of each entry the catalog holds what the entry stands for. -/
theorem exists_get?_of_load (h : load text = .ok c) {e : String × Toml.Value} (he : e ∈ entries) :
    ∃ p, Configures e.2 p ∧ c.get? e.1 = some p := by
  have hdistinct := distinct_formats (Toml.distinct_parse hparse) hformats
  have hrel := lookup_rel_of_load hparse hformats h e.1
  -- The keys are distinct, so it is this entry that is found under its name
  rw [hdistinct.lookup_of_mem he] at hrel
  cases hget : c.get? e.1 with
  | none =>
    rw [hget] at hrel
    cases hrel
  | some p =>
    rw [hget] at hrel
    cases hrel with
    | some hp => exact ⟨p, hp, rfl⟩

/-- The names of the catalog are the keys of the table. -/
theorem mem_names_iff_of_load (h : load text = .ok c) (name : String) :
    name ∈ c.names ↔ name ∈ entries.map Prod.fst := by
  rw [mem_names_iff]
  constructor
  · rintro ⟨p, hp⟩
    have hrel := lookup_rel_of_load hparse hformats h name
    rw [hp] at hrel
    cases hlookup : entries.lookup name with
    | none =>
      -- Nothing is held where no entry stands
      rw [hlookup] at hrel
      cases hrel
    | some v => exact List.mem_map_of_mem (f := Prod.fst) (Toml.Entries.mem_of_lookup hlookup)
  · intro hmem
    obtain ⟨e, he, rfl⟩ := List.mem_map.1 hmem
    obtain ⟨p, -, hp⟩ := exists_get?_of_load hparse hformats h he
    exact ⟨p, hp⟩

end Load

/-- Let a document hold a table of formats, or none. It is loaded if and only if each entry of the
    table stands for a pattern. The names of the catalog are then the keys of the table, and under
    each of them it holds what the entry stands for. A single entry that stands for no pattern is
    enough for the document to be refused, whatever the others are and wherever it stands. -/
theorem load_allOrNothing {text : List Char} {root entries : Toml.Entries}
    (hparse : Toml.parse text = some root) (hformats : formats? root = some entries) :
    ((∃ c, load text = .ok c) ↔ ∀ e ∈ entries, ∃ p, Configures e.2 p) ∧
    (∀ c, load text = .ok c →
      (∀ name, name ∈ c.names ↔ name ∈ entries.map Prod.fst) ∧
      ∀ e ∈ entries, ∃ p, Configures e.2 p ∧ c.get? e.1 = some p) ∧
    ∀ e ∈ entries, (¬ ∃ p, Configures e.2 p) → load text = .error ⟨⟩ := by
  have hloaded := exists_load_iff hparse hformats
  refine ⟨hloaded, fun c hc => ⟨?_, ?_⟩, fun e he hbad => ?_⟩
  · exact mem_names_iff_of_load hparse hformats hc
  · exact fun e he => exists_get?_of_load hparse hformats hc he
  · -- Were it loaded, this entry would stand for a pattern like all others
    cases hload : load text with
    | error e => rfl
    | ok c => exact absurd (hloaded.1 ⟨c, hload⟩ e he) hbad

/-- A mnemonic text and a preset beside another key are loaded, under two names. -/
theorem load_allOrNothing_twoEntries :
    let text := "[formats]\nday = 'DD'\nstamp = \x7b zone = 1, preset = 'iso8601-date' \x7d".toList
    let entries : Toml.Entries := [("day", .string ['D', 'D']),
      ("stamp", .table .inline
        [("zone", .integer 1), ("preset", .string Preset.isoDate.name.toList)])]
    (Toml.parse text = some [("formats", .table .header entries)] ∧
      formats? [("formats", .table .header entries)] = some entries) ∧
    ∃ c, load text = .ok c ∧ c.get? "day" = some (Mnemonic.compile ['D', 'D']) ∧
      c.get? "stamp" = some Preset.isoDate.pattern ∧
      ∀ name, name ∈ c.names ↔ name = "day" ∨ name = "stamp" := by
  intro text entries
  have hparse : Toml.parse text = some [("formats", .table .header entries)] := by rfl
  have hformats : formats? [("formats", .table .header entries)] = some entries := by rfl
  have hday : Configures (.string ['D', 'D']) (Mnemonic.compile ['D', 'D']) := .mnemonic _
  have hstamp : Configures (.table .inline
      [("zone", .integer 1), ("preset", .string Preset.isoDate.name.toList)])
      Preset.isoDate.pattern := .preset .isoDate rfl
  have hall : ∀ e ∈ entries, ∃ p, Configures e.2 p := by
    simp only [entries, List.forall_mem_cons]
    exact ⟨⟨_, hday⟩, ⟨_, hstamp⟩, nofun⟩
  obtain ⟨hloaded, hholds, -⟩ := load_allOrNothing hparse hformats
  obtain ⟨c, hc⟩ := hloaded.2 hall
  obtain ⟨hnames, hget⟩ := hholds c hc
  -- What is held is some pattern that the entry stands for, and there is only one
  obtain ⟨p, hp, hday'⟩ := hget _ List.mem_cons_self
  obtain ⟨q, hq, hstamp'⟩ := hget _ (List.mem_cons_of_mem _ List.mem_cons_self)
  rw [hp.unique hday] at hday'
  rw [hq.unique hstamp] at hstamp'
  exact ⟨⟨hparse, hformats⟩, c, hc, hday', hstamp', fun name => by simp [hnames, entries]⟩

end Catalog

end TimePattern
