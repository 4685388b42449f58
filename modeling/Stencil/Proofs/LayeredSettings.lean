import Stencil.Proofs.Lowering
import Stencil.Proofs.SavedSettings

/-!
# Settings field by field

Where the keys of a file and the names of variables are plain, each field of the settings is decided
on its own: by its variable if that is set, or else by what the file says under its name, or else by
the default. What a file says of a field with a variable makes no difference, whether it fits the
field or not, and neither does what is said under other names.
-/

namespace Stencil.Settings

-- ---------------------------------------------------------------------------
-- What is said of a field
-- ---------------------------------------------------------------------------

def fieldNames : List String := ["prefix", "indent", "exclude", "camelcase"]

theorem forall_mem_fieldNames {p : String → Prop} :
    (∀ field ∈ fieldNames, p field) ↔ p "prefix" ∧ p "indent" ∧ p "exclude" ∧ p "camelcase" := by
  simp [fieldNames]

def IsPlainName (name : String) : Prop :=
  ∀ c ∈ name.toList, Text.isAlphanumeric c = true ∨ c = '_'

def fileMembers (file : Option String) : Entries Toml :=
  membersOf (file.bind Toml.read?)

def inFile? (file : Option String) (field : String) : Option Toml :=
  ((fileMembers file).find? fun member => lowered member.1 = field).map Prod.snd

def inEnvironment? (environment : List (String × String)) (field : String) : Option String :=
  (environment.find? fun pair => lowered pair.1 = "symmetric_" ++ field).map Prod.snd

/-- What is said of a field: by its variable, or else by the file. -/
def said? (file : Option String) (environment : List (String × String)) (field : String) :
    Option Toml :=
  match inEnvironment? environment field with
  | some text => some (variableValue field text)
  | none => inFile? file field

/-- The value of a field of which something is said: converted, or the default if it is nothing. -/
def effective? {α : Type} (missing : α) (read : Toml → Option α) (said : Option Toml) : Option α :=
  match said with
  | none => some missing
  | some data => read data

structure Converts (said : String → Option Toml) (settings : Settings) : Prop where
  filePrefix : effective? default.filePrefix toText? (said "prefix") = some settings.filePrefix
  indent : effective? default.indent toSize? (said "indent") = some settings.indent
  exclude : effective? default.exclude toTexts? (said "exclude") = some settings.exclude
  camelCase : effective? default.camelCase toBoolean? (said "camelcase") = some settings.camelCase

/-- What is said of some field does not convert. -/
def Misfits (said : String → Option Toml) : Prop :=
  effective? default.filePrefix toText? (said "prefix") = none ∨
    effective? default.indent toSize? (said "indent") = none ∨
      effective? default.exclude toTexts? (said "exclude") = none ∨
        effective? default.camelCase toBoolean? (said "camelcase") = none

/-- A file that is TOML, with plain keys and nowhere the name for dates and times as a key, and
variables with plain names. No two keys and no two names agree up to case. -/
structure PlainSources (file : Option String) (environment : List (String × String)) : Prop where
  parses : ∀ text ∈ file, ∃ data, Toml.read? text = some data ∧ data.Undated
  plainKeys : ∀ member ∈ fileMembers file, IsPlainName member.1
  distinctKeys : ((fileMembers file).map fun member => lowered member.1).Nodup
  plainVariables : ∀ pair ∈ environment, IsPlainName pair.1
  distinctVariables : (environment.map fun pair => lowered pair.1).Nodup

-- ---------------------------------------------------------------------------
-- Plain keys
-- ---------------------------------------------------------------------------

namespace Key

variable {text : List Char}

theorem readSteps?_of_no_step {c : Char} (hdot : c ≠ '.') (hbracket : c ≠ '[') (fuel : Nat) :
    readSteps? fuel (c :: text) = none := by
  cases fuel with
  | zero => simp [readSteps?]
  | succ fuel => simp [readSteps?, hdot, hbracket]

theorem read?_getD (hdot : '.' ∉ text) (hbracket : '[' ∉ text) :
    (read? text).getD ⟨String.ofList text, []⟩ = ⟨String.ofList text, []⟩ := by
  cases hrest : text.dropWhile isNameChar with
  | nil =>
    have hall : ∀ c ∈ text, isNameChar c = true := by simpa using hrest
    by_cases hne : text = []
    · simp [hne, read?, readName?]
    · simp [read?_of_isNameChar hne hall]
  | cons c rest =>
    have hc : c ∈ text := List.dropWhile_suffix isNameChar |>.subset (hrest ▸ List.mem_cons_self)
    have hsteps : readSteps? (rest.length + 1) (c :: rest) = none :=
      readSteps?_of_no_step (ne_of_mem_of_not_mem hc hdot) (ne_of_mem_of_not_mem hc hbracket) _
    by_cases hname : (text.takeWhile isNameChar).isEmpty = true
    · simp [read?, readName?, hname]
    · simp [read?, readName?, hname, hrest, hsteps]

theorem ofText_of_no_step (hdot : '.' ∉ text) (hbracket : '[' ∉ text) :
    ofText (String.ofList text) = ⟨lowered (String.ofList text), []⟩ := by
  rw [ofText, lowered, String.toList_ofList]
  exact read?_getD (Text.not_mem_lowerFrom (by decide) (by decide) hdot)
    (Text.not_mem_lowerFrom (by decide) (by decide) hbracket)

end Key

section
variable {name key : String}

theorem IsPlainName.not_mem (h : IsPlainName name) : '.' ∉ name.toList ∧ '[' ∉ name.toList := by
  constructor
  · intro hmem
    exact absurd (h _ hmem) (by decide)
  · intro hmem
    exact absurd (h _ hmem) (by decide)

theorem IsPlainName.ofText (h : IsPlainName name) : Key.ofText name = ⟨lowered name, []⟩ := by
  obtain ⟨hdot, hbracket⟩ := h.not_mem
  simpa using Key.ofText_of_no_step hdot hbracket

theorem variableKey?_eq_some :
    variableKey? name = some key ↔ (lowered name).toList = variableStart ++ key.toList := by
  simp only [variableKey?, lowered, String.toList_ofList, Option.ite_none_right_eq_some,
    Option.some.injEq, List.isPrefixOf_iff_prefix]
  constructor
  · rintro ⟨⟨rest, hrest⟩, rfl⟩
    simp [← hrest]
  · intro h
    simp [h]

theorem variableKey?_eq_field {field : String} :
    variableKey? name = some field ↔ lowered name = "symmetric_" ++ field := by
  rw [variableKey?_eq_some, ← String.toList_inj, String.toList_append]
  rfl

theorem IsPlainName.ofText_variableKey? (h : IsPlainName name) (hkey : variableKey? name = some key) :
    Key.ofText key = ⟨lowered key, []⟩ := by
  obtain ⟨hdot, hbracket⟩ := h.not_mem
  have hsplit := variableKey?_eq_some.mp hkey
  rw [lowered, String.toList_ofList] at hsplit
  have hmem : ∀ c ∈ key.toList, c ∈ Text.lower name.toList := fun c hc => by simp [hsplit, hc]
  have hkeydot : '.' ∉ key.toList := fun hc =>
    Text.not_mem_lowerFrom (by decide) (by decide) hdot (hmem _ hc)
  have hkeybracket : '[' ∉ key.toList := fun hc =>
    Text.not_mem_lowerFrom (by decide) (by decide) hbracket (hmem _ hc)
  simpa using Key.ofText_of_no_step hkeydot hkeybracket

theorem ascii_of_mem_fieldNames :
    ∀ field ∈ fieldNames, ∀ c ∈ field.toList, c.toNat < 0x80 ∧ c ≠ 'k' := by
  simp [forall_mem_fieldNames]

theorem lowered_of_mem_fieldNames : ∀ field ∈ fieldNames, lowered field = field := by
  decide

theorem lowered_variableKey?_eq_iff {field : String} (hkey : variableKey? name = some key)
    (hfield : field ∈ fieldNames) : lowered key = field ↔ key = field := by
  constructor
  · intro h
    have hsplit := variableKey?_eq_some.mp hkey
    rw [lowered, String.toList_ofList] at hsplit
    have hlower : Text.lower key.toList = field.toList := by
      rw [← h, lowered, String.toList_ofList]
    have hcapital : ∀ c ∈ key.toList, c.toNat < 0x80 → c.isUpper = false := by
      intro c hc
      have hmem : c ∈ Text.lower name.toList := by simp [hsplit, hc]
      exact Text.not_isUpper_of_mem_lower hmem
    exact String.toList_inj.mp (Text.eq_of_lower_eq (ascii_of_mem_fieldNames _ hfield) hcapital hlower)
  · rintro rfl
    exact lowered_of_mem_fieldNames _ hfield

end

-- ---------------------------------------------------------------------------
-- Layers
-- ---------------------------------------------------------------------------

/-- Where keys have no steps and one at most means a name, the data under this name is what is said
under that key, put upon what was there before. -/
theorem get?_assignAll {all : Data} {pairs : Layer} {name : String}
    (hkeys : ∀ pair ∈ pairs, Key.ofText pair.1 = ⟨lowered pair.1, []⟩)
    (hone : pairs.Pairwise fun a b => lowered a.1 = name → lowered b.1 ≠ name) :
    Entries.get? (all.assignAll pairs) name =
      match pairs.find? fun pair => lowered pair.1 = name with
      | some pair => some (placed (Entries.get? all name) pair.2)
      | none => Entries.get? all name := by
  induction pairs generalizing all with
  | nil => rfl
  | cons pair pairs ih =>
    obtain ⟨key, data⟩ := pair
    obtain ⟨hkey, hkeys⟩ := List.forall_mem_cons.mp hkeys
    obtain ⟨hfirst, hone⟩ := List.pairwise_cons.mp hone
    have hstep : all.assignAll ((key, data) :: pairs) =
        (all.assign ⟨lowered key, []⟩ data).assignAll pairs := by rw [← hkey]; rfl
    rw [hstep, ih hkeys hone, Data.get?_assign]
    by_cases hname : lowered key = name
    · have hothers : pairs.find? (fun pair => lowered pair.1 = name) = none := by
        rw [List.find?_eq_none]
        intro other hmem
        simpa using hfirst other hmem hname
      simp [hname, hothers, placedAt]
    · simp [hname, Ne.symm hname]

theorem variableValue_ne_table (key value : String) (members : List (String × Toml)) :
    variableValue key value ≠ .table members := by
  simp only [variableValue]
  repeat' split
  all_goals simp

section
variable {file : Option String} {environment : List (String × String)} {field : String}

theorem find?_environmentLayer (environment : List (String × String)) (hfield : field ∈ fieldNames) :
    (environmentLayer environment).find? (fun pair => lowered pair.1 = field) =
      (inEnvironment? environment field).map fun text => (field, variableValue field text) := by
  induction environment with
  | nil => rfl
  | cons pair environment ih =>
    obtain ⟨name, value⟩ := pair
    rw [inEnvironment?] at ih ⊢
    cases hkey : variableKey? name with
    | none =>
      have hname : lowered name ≠ "symmetric_" ++ field := by
        intro h
        rw [variableKey?_eq_field.mpr h] at hkey
        cases hkey
      have hlayer : environmentLayer ((name, value) :: environment) = environmentLayer environment := by
        simp [environmentLayer, hkey]
      rw [hlayer, ih, List.find?_cons_of_neg (by simpa using hname)]
    | some key =>
      have hlayer : environmentLayer ((name, value) :: environment) =
          (key, variableValue key value) :: environmentLayer environment := by
        simp [environmentLayer, hkey]
      rw [hlayer]
      by_cases hsame : key = field
      · subst hsame
        have hname := variableKey?_eq_field.mp hkey
        have hlow := lowered_of_mem_fieldNames _ hfield
        simp [hname, hlow]
      · have hname : lowered name ≠ "symmetric_" ++ field := by
          intro h
          rw [variableKey?_eq_field.mpr h] at hkey
          exact hsame (Option.some.inj hkey).symm
        have hlow : lowered key ≠ field :=
          fun h => hsame ((lowered_variableKey?_eq_iff hkey hfield).mp h)
        rw [List.find?_cons_of_neg (by simpa using hlow), ih,
          List.find?_cons_of_neg (by simpa using hname)]

namespace PlainSources

theorem pairwise_environmentLayer (h : PlainSources file environment) (hfield : field ∈ fieldNames) :
    (environmentLayer environment).Pairwise fun a b => lowered a.1 = field → lowered b.1 ≠ field := by
  have hnames := List.pairwise_map.mp h.distinctVariables
  rw [environmentLayer, List.pairwise_filterMap]
  refine hnames.imp ?_
  rintro ⟨name, value⟩ ⟨other, otherValue⟩ hne _ hfirst _ hsecond hlow hlowOther
  obtain ⟨key, hkey, rfl⟩ := Option.map_eq_some_iff.mp hfirst
  obtain ⟨otherKey, hotherKey, rfl⟩ := Option.map_eq_some_iff.mp hsecond
  obtain rfl := (lowered_variableKey?_eq_iff hkey hfield).mp hlow
  obtain rfl := (lowered_variableKey?_eq_iff hotherKey hfield).mp hlowOther
  exact hne ((variableKey?_eq_field.mp hkey).trans (variableKey?_eq_field.mp hotherKey).symm)

theorem ofText_environmentLayer (h : PlainSources file environment) :
    ∀ pair ∈ environmentLayer environment, Key.ofText pair.1 = ⟨lowered pair.1, []⟩ := by
  intro pair hmem
  obtain ⟨⟨name, value⟩, hvariable, hpair⟩ := List.mem_filterMap.mp hmem
  obtain ⟨key, hkey, rfl⟩ := Option.map_eq_some_iff.mp hpair
  exact (h.plainVariables _ hvariable).ofText_variableKey? hkey

/-- The layers together hold under the name of a field what is said of it. -/
theorem get?_layers (h : PlainSources file environment) (hfield : field ∈ fieldNames) :
    Entries.get? (Data.assignAll [] [fileMembers file, environmentLayer environment].flatten) field =
      said? file environment field := by
  have hfile : Entries.get? (Data.assignAll [] (fileMembers file)) field = inFile? file field := by
    rw [get?_assignAll (fun member hmem => (h.plainKeys member hmem).ofText) ?_]
    · cases hfind : (fileMembers file).find? fun member => lowered member.1 = field with
      | none => simp [inFile?, hfind]
      | some member => simp [inFile?, hfind, placed_none]
    · refine (List.pairwise_map.mp h.distinctKeys).imp ?_
      intro a b hne hfirst hsecond
      exact hne (hfirst.trans hsecond.symm)
  have hsplit : Data.assignAll [] [fileMembers file, environmentLayer environment].flatten =
      (Data.assignAll [] (fileMembers file)).assignAll (environmentLayer environment) := by
    simp [Data.assignAll]
  rw [hsplit, get?_assignAll h.ofText_environmentLayer (h.pairwise_environmentLayer hfield),
    find?_environmentLayer environment hfield, hfile, said?]
  cases inEnvironment? environment field with
  | none => rfl
  | some text =>
    simp [placed_of_no_table _ (variableValue_ne_table field text)]

end PlainSources

-- ---------------------------------------------------------------------------
-- Loading
-- ---------------------------------------------------------------------------

theorem field?_eq_effective? {α : Type} (data : Data) (name : String) (missing : α)
    (read : Toml → Option α) :
    field? data name missing read = effective? missing read (Entries.get? data name) := rfl

theorem ofData?_eq_some_iff {data : Data} {settings : Settings} :
    ofData? data = some settings ↔ Converts (Entries.get? data) settings := by
  simp only [ofData?, field?_eq_effective?, Option.bind_eq_bind, Option.bind_eq_some_iff,
    Option.pure_def, Option.some.injEq]
  constructor
  · rintro ⟨_, hstart, _, hindent, _, hexclude, _, hcamel, rfl⟩
    exact ⟨hstart, hindent, hexclude, hcamel⟩
  · rintro ⟨hstart, hindent, hexclude, hcamel⟩
    exact ⟨_, hstart, _, hindent, _, hexclude, _, hcamel, rfl⟩

theorem ofData?_eq_none_iff {data : Data} : ofData? data = none ↔ Misfits (Entries.get? data) := by
  simp only [ofData?, field?_eq_effective?, Misfits, Option.bind_eq_bind, Option.pure_def]
  cases effective? default.filePrefix toText? (Entries.get? data "prefix") <;>
    cases effective? default.indent toSize? (Entries.get? data "indent") <;>
      cases effective? default.exclude toTexts? (Entries.get? data "exclude") <;>
        cases effective? default.camelCase toBoolean? (Entries.get? data "camelcase") <;> simp

section
variable {said other : String → Option Toml} {settings : Settings}

theorem converts_congr (h : ∀ field ∈ fieldNames, said field = other field) :
    Converts said settings ↔ Converts other settings := by
  obtain ⟨hstart, hindent, hexclude, hcamel⟩ := forall_mem_fieldNames.mp h
  constructor
  · rintro ⟨h1, h2, h3, h4⟩
    exact ⟨hstart ▸ h1, hindent ▸ h2, hexclude ▸ h3, hcamel ▸ h4⟩
  · rintro ⟨h1, h2, h3, h4⟩
    exact ⟨hstart ▸ h1, hindent ▸ h2, hexclude ▸ h3, hcamel ▸ h4⟩

theorem misfits_congr (h : ∀ field ∈ fieldNames, said field = other field) :
    Misfits said ↔ Misfits other := by
  obtain ⟨hstart, hindent, hexclude, hcamel⟩ := forall_mem_fieldNames.mp h
  simp only [Misfits, hstart, hindent, hexclude, hcamel]

end

def settled (data : Data) : Except LoadError Settings :=
  match ofData? data with
  | none => .error .unreadable
  | some settings =>
    match settings.validate with
    | .error fault => .error (.invalid fault)
    | .ok () => .ok settings

theorem settled_eq_unreadable_iff {data : Data} :
    settled data = .error .unreadable ↔ Misfits (Entries.get? data) := by
  rw [← ofData?_eq_none_iff, settled]
  cases ofData? data with
  | none => simp
  | some settings => cases hvalid : settings.validate <;> simp [hvalid]

theorem settled_eq_invalid_iff {data : Data} {fault : Fault} :
    settled data = .error (.invalid fault) ↔
      ∃ settings, Converts (Entries.get? data) settings ∧ settings.validate = .error fault := by
  simp only [← ofData?_eq_some_iff, settled]
  cases ofData? data with
  | none => simp
  | some settings => cases hvalid : settings.validate <;> simp [hvalid]

theorem settled_eq_ok_iff {data : Data} {settings : Settings} :
    settled data = .ok settings ↔
      Converts (Entries.get? data) settings ∧ settings.validate = .ok () := by
  rw [← ofData?_eq_some_iff, settled]
  cases ofData? data with
  | none => simp
  | some found =>
    cases hvalid : found.validate with
    | error fault =>
      simp only [hvalid, reduceCtorEq, Option.some.injEq, false_iff, not_and]
      rintro rfl
      simp [hvalid]
    | ok =>
      simp only [hvalid, Except.ok.injEq, Option.some.injEq, iff_self_and]
      rintro rfl
      exact hvalid

namespace PlainSources

theorem load_eq (h : PlainSources file environment) :
    load file environment =
      settled (Data.assignAll [] [fileMembers file, environmentLayer environment].flatten) := by
  cases file with
  | none =>
    have hmembers : fileMembers none = [] := by simp [fileMembers, membersOf]
    rw [hmembers]
    rfl
  | some text =>
    obtain ⟨data, hread, hundated⟩ := h.parses text rfl
    have hmembers : fileMembers (some text) = membersOf (some data) := by
      rw [fileMembers, Option.bind_some, hread]
    unfold load
    dsimp only
    rw [readFile?_of_undated hread hundated, Option.bind_some, hmembers]
    rfl

theorem load_eq_unreadable_iff (h : PlainSources file environment) :
    load file environment = .error .unreadable ↔ Misfits (said? file environment) := by
  rw [h.load_eq, settled_eq_unreadable_iff]
  exact misfits_congr fun field hfield => h.get?_layers hfield

theorem load_eq_invalid_iff (h : PlainSources file environment) {fault : Fault} :
    load file environment = .error (.invalid fault) ↔
      ∃ settings, Converts (said? file environment) settings ∧ settings.validate = .error fault := by
  have hconverts (settings : Settings) : _ ↔ Converts (said? file environment) settings :=
    converts_congr fun field hfield => h.get?_layers hfield
  simp only [h.load_eq, settled_eq_invalid_iff, hconverts]

theorem load_eq_ok_iff (h : PlainSources file environment) {settings : Settings} :
    load file environment = .ok settings ↔
      Converts (said? file environment) settings ∧ settings.validate = .ok () := by
  rw [h.load_eq, settled_eq_ok_iff, converts_congr fun field hfield => h.get?_layers hfield]

/-- Sources that say the same of each field give the same. -/
theorem load_congr {otherFile : Option String} {otherEnvironment : List (String × String)}
    (h : PlainSources file environment) (hother : PlainSources otherFile otherEnvironment)
    (hsaid : ∀ field ∈ fieldNames,
      said? otherFile otherEnvironment field = said? file environment field) :
    load otherFile otherEnvironment = load file environment := by
  cases hload : load file environment with
  | error reason =>
    cases reason with
    | unreadable =>
      rw [hother.load_eq_unreadable_iff, misfits_congr hsaid]
      exact h.load_eq_unreadable_iff.mp hload
    | invalid fault =>
      obtain ⟨settings, hconverts, hfault⟩ := h.load_eq_invalid_iff.mp hload
      exact hother.load_eq_invalid_iff.mpr ⟨settings, (converts_congr hsaid).mpr hconverts, hfault⟩
  | ok settings =>
    obtain ⟨hconverts, hvalid⟩ := h.load_eq_ok_iff.mp hload
    exact hother.load_eq_ok_iff.mpr ⟨(converts_congr hsaid).mpr hconverts, hvalid⟩

end PlainSources

theorem said?_congr {otherFile : Option String} {otherEnvironment : List (String × String)}
    (henvironment : inEnvironment? otherEnvironment field = inEnvironment? environment field)
    (hfile : inEnvironment? environment field = none → inFile? otherFile field = inFile? file field) :
    said? otherFile otherEnvironment field = said? file environment field := by
  rw [said?, said?, henvironment]
  cases hset : inEnvironment? environment field with
  | none => exact hfile hset
  | some text => rfl

-- ---------------------------------------------------------------------------
-- Saved files
-- ---------------------------------------------------------------------------

theorem fileMembers_toToml {settings : Settings} (h : settings.indent < 0x8000000000000000) :
    fileMembers (some settings.toToml) = settings.members := by
  rw [fileMembers, Option.bind_some, read?_toToml h]
  rfl

theorem inFile?_toToml {settings : Settings} (h : settings.indent < 0x8000000000000000) :
    ∀ field ∈ fieldNames, inFile? (some settings.toToml) field = settings.members.get? field := by
  obtain ⟨hstart, hindent, hexclude, hcamel⟩ := forall_mem_fieldNames.mp lowered_of_mem_fieldNames
  simp only [forall_mem_fieldNames, inFile?, fileMembers_toToml h]
  simp [members, Entries.get?_cons, hstart, hindent, hexclude, hcamel]

theorem plainSources_toToml {settings : Settings} (h : settings.indent < 0x8000000000000000)
    (hplain : ∀ pair ∈ environment, IsPlainName pair.1)
    (hdistinct : (environment.map fun pair => lowered pair.1).Nodup) :
    PlainSources (some settings.toToml) environment where
  parses := by
    intro text htext
    obtain rfl := Option.mem_some.mp htext
    exact ⟨_, read?_toToml h, undated_members settings⟩
  plainKeys := by
    rw [fileMembers_toToml h]
    simp [members, IsPlainName, Text.isAlphanumeric, Char.isAlphanum, Char.isAlpha, Char.isLower]
  distinctKeys := by
    have hnames : (settings.members.map fun member => lowered member.1) =
        ["prefix", "indent", "exclude", "camelcase"].map lowered := rfl
    rw [fileMembers_toToml h, hnames]
    decide
  plainVariables := hplain
  distinctVariables := hdistinct

-- ---------------------------------------------------------------------------
-- Field by field
-- ---------------------------------------------------------------------------

/-- Loading fails to read just when what is said of some field does not convert, and else gives what
is said of each field, or refuses it as a whole. Nothing but the variables of the fields counts, and
what the file says of the fields without a variable. -/
theorem load_field_by_field (h : PlainSources file environment) :
    (load file environment = .error .unreadable ↔ Misfits (said? file environment)) ∧
    (∀ fault, load file environment = .error (.invalid fault) ↔
      ∃ settings, Converts (said? file environment) settings ∧ settings.validate = .error fault) ∧
    (∀ settings, load file environment = .ok settings ↔
      Converts (said? file environment) settings ∧ settings.validate = .ok ()) ∧
    ∀ otherFile otherEnvironment, PlainSources otherFile otherEnvironment →
      (∀ field ∈ fieldNames,
        inEnvironment? otherEnvironment field = inEnvironment? environment field ∧
          (inEnvironment? environment field = none →
            inFile? otherFile field = inFile? file field)) →
      load otherFile otherEnvironment = load file environment := by
  refine ⟨h.load_eq_unreadable_iff, fun _ => h.load_eq_invalid_iff, fun _ => h.load_eq_ok_iff, ?_⟩
  intro otherFile otherEnvironment hother hagree
  exact h.load_congr hother fun field hfield =>
    said?_congr (hagree field hfield).1 (hagree field hfield).2

end

theorem load_field_by_field_override :
    let settings : Settings := ⟨"My", 40, ["Draft"], true⟩
    let environment := [("SYMMETRIC_INDENT", "4"), ("SYMMETRIC_OTHER", "x"), ("HOME", "/root")]
    PlainSources (some settings.toToml) environment ∧
      load (some settings.toToml) environment = .ok ⟨"My", 4, ["Draft"], true⟩ := by
  dsimp only
  have hplain : PlainSources (some (Settings.toToml ⟨"My", 40, ["Draft"], true⟩))
      [("SYMMETRIC_INDENT", "4"), ("SYMMETRIC_OTHER", "x"), ("HOME", "/root")] :=
    plainSources_toToml (by decide)
      (by simp [IsPlainName, Text.isAlphanumeric, Char.isAlphanum, Char.isAlpha, Char.isUpper])
      (by decide +kernel)
  have hfour : variableValue "indent" "4" = .integer 4 := by
    have hnumber : Numeral.readInt64? "4".toList = some 4 := by decide +kernel
    have hword : lowered "4" ≠ "true" ∧ lowered "4" ≠ "false" := by decide +kernel
    rw [variableValue, if_neg hword.1, if_neg hword.2, hnumber]
  have hset : inEnvironment? [("SYMMETRIC_INDENT", "4"), ("SYMMETRIC_OTHER", "x"), ("HOME", "/root")]
      "indent" = some "4" := by decide +kernel
  have hunset : ∀ field ∈ ["prefix", "exclude", "camelcase"],
      inEnvironment? [("SYMMETRIC_INDENT", "4"), ("SYMMETRIC_OTHER", "x"), ("HOME", "/root")]
        field = none := by decide +kernel
  simp only [List.forall_mem_cons] at hunset
  refine ⟨hplain, ((load_field_by_field hplain).2.2.1 _).mpr ⟨⟨?_, ?_, ?_, ?_⟩, by decide⟩⟩
  · rw [said?, hunset.1, inFile?_toToml (by decide) _ (by simp [fieldNames])]
    rfl
  · rw [said?, hset]
    dsimp only
    rw [hfour]
    rfl
  · rw [said?, hunset.2.1, inFile?_toToml (by decide) _ (by simp [fieldNames])]
    rfl
  · rw [said?, hunset.2.2.1, inFile?_toToml (by decide) _ (by simp [fieldNames])]
    rfl

end Stencil.Settings
