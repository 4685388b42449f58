import Stencil.Proofs.TomlTables
import Stencil.Settings.File
import Stencil.Settings.Layers

/-!
# Saved settings

The text that is saved for settings is read back as these settings: each of its lines gives one
field, the lines together a table with the four fields, and this table the settings.
-/

namespace Stencil.Settings

def members (settings : Settings) : Entries Toml :=
  [("prefix", .string settings.filePrefix), ("indent", .integer settings.indent),
    ("exclude", .array (settings.exclude.map .string)), ("camelcase", .boolean settings.camelCase)]

def lines (settings : Settings) : List Char :=
  line "prefix" (Toml.Quoted.encode settings.filePrefix.toList) ++
    (line "indent" (Nat.toDigits 10 settings.indent) ++
      (line "exclude" (arrayText settings.exclude) ++
        (line "camelcase" (if settings.camelCase then "true".toList else "false".toList) ++ [])))

theorem toList_toToml (settings : Settings) : settings.toToml.toList = settings.lines := by
  simp [toToml, lines]

theorem readStatements_line {name : String} {code : List Char} {data : Toml}
    (hname : Toml.IsBareName name) (hcode : Toml.Writes code data) (fuel : Nat)
    (rest : List Char) :
    Toml.Reader.readStatements (fuel + 1) (line name code ++ rest) =
      (Toml.Reader.readStatements fuel rest).map (.pair [] name data :: ·) := by
  rw [← hname.readStatements hcode]
  simp [line]

theorem readStatements_lines {settings : Settings} (h : settings.indent < 0x8000000000000000)
    (fuel : Nat) :
    Toml.Reader.readStatements (fuel + 5) settings.lines =
      some (settings.members.map fun (name, data) => .pair [] name data) := by
  have hnames : ∀ name ∈ ["prefix", "indent", "exclude", "camelcase"], Toml.IsBareName name := by
    simp [Toml.IsBareName, Toml.Reader.isBare]
  have hprefix := Toml.writes_encode settings.filePrefix.toList
  have hindent := Toml.writes_toDigits h
  have hexclude : Toml.Writes (arrayText settings.exclude) _ :=
    Toml.writes_itemsText settings.exclude
  have hcamelCase := Toml.writes_boolean settings.camelCase
  rw [String.ofList_toList] at hprefix
  rw [lines, readStatements_line (hnames _ (by simp)) hprefix,
    readStatements_line (hnames _ (by simp)) hindent,
    readStatements_line (hnames _ (by simp)) hexclude,
    readStatements_line (hnames _ (by simp)) hcamelCase]
  rfl

theorem ofStatements?_members (settings : Settings) :
    Toml.ofStatements? (settings.members.map fun (name, data) => .pair [] name data) =
      some (.table settings.members) := by
  rfl

theorem dropMark_lines (settings : Settings) : Toml.dropMark settings.lines = settings.lines := by
  rfl

theorem read?_toToml {settings : Settings} (h : settings.indent < 0x8000000000000000) :
    Toml.read? settings.toToml = some (.table settings.members) := by
  obtain ⟨fuel, hfuel⟩ : ∃ fuel, settings.lines.length + 1 = fuel + 5 :=
    ⟨settings.lines.length - 4, by simp [lines, line]⟩
  simp only [Toml.read?, toList_toToml, dropMark_lines, hfuel, readStatements_lines h,
    Option.bind_some, ofStatements?_members]

theorem undated_members (settings : Settings) : (Toml.table settings.members).Undated := by
  have hexclude : (Toml.array (settings.exclude.map .string)).Undated :=
    .array (by simp [Toml.Undated.string])
  refine .table (by simp [members, Toml.datetimeMember]) ?_
  simp [members, hexclude, Toml.Undated.string, Toml.Undated.integer, Toml.Undated.boolean]

theorem ofData?_members (settings : Settings) : ofData? settings.members = some settings := by
  have hexclude : settings.exclude.mapM (toText? ∘ .string) = some settings.exclude := by
    have hpure : toText? ∘ .string = fun text => pure text := rfl
    rw [hpure, List.mapM_pure]
    simp
  simp [ofData?, members, field?, Entries.get?, List.lookup, toText?, toSize?, toTexts?, toBoolean?,
    hexclude]

theorem assignAll_of_plain {all : Data} {pairs : Layer}
    (hkeys : ∀ pair ∈ pairs, Key.ofText pair.1 = ⟨pair.1, []⟩)
    (h : (Entries.names (all ++ pairs)).Nodup) : all.assignAll pairs = all ++ pairs := by
  induction pairs generalizing all with
  | nil => simp [Data.assignAll]
  | cons pair pairs ih =>
    obtain ⟨name, data⟩ := pair
    obtain ⟨hkey, hothers⟩ := List.forall_mem_cons.mp hkeys
    have hnew : name ∉ all.names := by
      simp only [Entries.names, List.map_append, List.map_cons, List.nodup_append] at h
      intro hmem
      exact h.2.2 _ hmem _ List.mem_cons_self rfl
    have hassign : all.assign (.ofText name) data = all ++ [(name, data)] := by
      rw [hkey, Data.assign, placedAt, Entries.get?_of_not_mem hnew, placed_none,
        Entries.insert_of_not_mem hnew]
    have hrest : Data.assignAll (all ++ [(name, data)]) pairs = all ++ [(name, data)] ++ pairs :=
      ih hothers (by simpa using h)
    calc all.assignAll ((name, data) :: pairs)
      _ = (all.assign (.ofText name) data).assignAll pairs := rfl
      _ = all ++ (name, data) :: pairs := by rw [hassign, hrest]; simp

theorem ofLayers?_members (settings : Settings) :
    ofLayers? [settings.members, []] = some settings := by
  have hkeys : ∀ pair ∈ settings.members, Key.ofText pair.1 = ⟨pair.1, []⟩ := by
    simp only [members, List.forall_mem_cons]
    decide
  have hnames : (Entries.names settings.members).Nodup := by
    simp [members, Entries.names]
  have hassigned : Data.assignAll [] settings.members = settings.members :=
    assignAll_of_plain hkeys hnames
  simp [ofLayers?, hassigned, ofData?_members]

theorem environmentLayer_eq_nil {environment : List (String × String)}
    (h : ∀ pair ∈ environment, variableKey? pair.1 = none) : environmentLayer environment = [] := by
  simp only [environmentLayer, List.filterMap_eq_nil_iff]
  intro pair hpair
  simp [h pair hpair]

/-- A file in which no key has the name for dates and times is read as its members. -/
theorem readFile?_of_undated {text : String} {data : Toml} (hread : Toml.read? text = some data)
    (hundated : data.Undated) : readFile? text = some (membersOf (some data)) := by
  obtain ⟨members, rfl⟩ := Toml.exists_table_of_read? hread
  rw [readFile?, Toml.read?_dropMark hread, Option.bind_some, fileLayer?, hundated.withDatetimes?]
  rfl

theorem readFile?_toToml {settings : Settings} (h : settings.indent < 0x8000000000000000) :
    readFile? settings.toToml = some settings.members :=
  readFile?_of_undated (read?_toToml h) (undated_members settings)

theorem load_of_layers {text : String} {environment : List (String × String)} {said : Layer}
    {settings : Settings} (hfile : readFile? text = some said)
    (hlayers : ofLayers? [said, environmentLayer environment] = some settings)
    (hvalid : settings.validate = .ok ()) : load (some text) environment = .ok settings := by
  unfold load
  dsimp only
  rw [hfile, Option.bind_some, hlayers]
  dsimp only
  rw [hvalid]

/-- Settings that are accepted are loaded again as they were saved, where no variable speaks of
settings. Nothing is saved for settings that are refused. -/
theorem load_save (settings : Settings) :
    (settings.validate = .ok () → ∃ text, settings.save = .ok text ∧
      ∀ environment : List (String × String),
        (∀ pair ∈ environment, variableKey? pair.1 = none) →
          load (some text) environment = .ok settings) ∧
    (∀ fault, settings.validate = .error fault → settings.save = .error fault) := by
  refine ⟨?_, ?_⟩
  · intro hvalid
    refine ⟨settings.toToml, by simp [save, hvalid], ?_⟩
    intro environment henvironment
    have hindent : settings.indent ≤ maxIndent := ((validate_eq_ok_iff settings).mp hvalid).1
    have hsmall : settings.indent < 0x8000000000000000 := by
      unfold maxIndent at hindent
      omega
    have hfile := readFile?_toToml hsmall
    apply load_of_layers hfile
    · rw [environmentLayer_eq_nil henvironment]
      exact ofLayers?_members settings
    · exact hvalid
  · intro fault hfault
    simp [save, hfault]

theorem load_save_quoted :
    let settings : Settings :=
      ⟨"\t'''\"\"\"\n\x00", 16, ["plain", "say \"yes\"", "''\"\"\n", "C:\\it's"], false⟩
    let environment := [("HOME", "/root")]
    settings.validate = .ok () ∧ (∀ pair ∈ environment, variableKey? pair.1 = none) ∧
      ∃ text, settings.save = .ok text ∧ load (some text) environment = .ok settings := by
  intro settings environment
  have hvalid : settings.validate = .ok () := by decide
  have hnone : ∀ pair ∈ environment, variableKey? pair.1 = none := by decide
  obtain ⟨text, hsave, hload⟩ := (load_save settings).1 hvalid
  exact ⟨hvalid, hnone, text, hsave, hload environment hnone⟩

end Stencil.Settings
