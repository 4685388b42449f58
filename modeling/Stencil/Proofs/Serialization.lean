import Stencil.ClassSpec.Data
import Stencil.Proofs.JsonData

/-!
# Class descriptions as data

A class description that was read from JSON is written as data that reads as the same description,
and the data is written again from what was read. In what form a description was given makes no
difference after it was read once.
-/

namespace Stencil

-- ---------------------------------------------------------------------------
-- Members
-- ---------------------------------------------------------------------------

namespace Entries

variable {α : Type} {entries others : Entries α} {name : String}

theorem get?_append_of_not_mem (h : name ∉ others.names) :
    get? (entries ++ others) name = entries.get? name := by
  induction entries with
  | nil => exact get?_of_not_mem h
  | cons entry entries ih =>
    obtain ⟨other, value⟩ := entry
    rw [List.cons_append, get?_cons, get?_cons, ih]

theorem filter_name (h : entries.names.Nodup) (name : String) :
    (entries.filter fun entry => entry.1 == name) =
      ((entries.get? name).map fun value => (name, value)).toList := by
  induction entries with
  | nil => rfl
  | cons entry entries ih =>
    obtain ⟨other, value⟩ := entry
    obtain ⟨hnew, hnames⟩ := List.nodup_cons.mp h
    rw [List.filter_cons, get?_cons, ih hnames]
    by_cases hname : name = other
    · subst hname
      simp [get?_of_not_mem hnew]
    · simp [hname, Ne.symm hname]

end Entries

namespace Document

variable {members : List (String × Document)} {entries : Entries Json}

theorem ofItems_eq_map (items : List Json) : ofItems items = items.map ofJson := by
  induction items with
  | nil => rfl
  | cons item items ih => simp [ofItems, ih]

theorem ofMembers_eq_map (entries : Entries Json) :
    ofMembers entries = entries.map fun entry => (entry.1, ofJson entry.2) := by
  induction entries with
  | nil => rfl
  | cons entry entries ih =>
    obtain ⟨name, data⟩ := entry
    simp [ofMembers, ih]

theorem filter_ofMembers (isName : String → Bool) (entries : Entries Json) :
    ((ofMembers entries).filter fun member => isName member.1) =
      ofMembers (entries.filter fun entry => isName entry.1) := by
  rw [ofMembers_eq_map, ofMembers_eq_map, List.filter_map]
  rfl

theorem mem_of_member? {isName : String → Bool} {document : Document}
    (h : member? members isName = some (some document)) : ∃ name, (name, document) ∈ members := by
  unfold member? at h
  split at h
  · cases h
  · next found hfilter =>
    cases h
    have hmem : found ∈ members.filter fun member => isName member.1 := by simp [hfilter]
    exact ⟨found.1, List.mem_of_mem_filter hmem⟩
  · cases h

theorem member?_ofMembers (h : entries.names.Nodup) (name : String) :
    member? (ofMembers entries) (· == name) = some ((entries.get? name).map ofJson) := by
  rw [member?, filter_ofMembers (· == name), Entries.filter_name h]
  cases entries.get? name <;> rfl

theorem member?_ofMembers_or (h : entries.names.Nodup) {name other : String}
    (hother : other ∉ entries.names) :
    member? (ofMembers entries) (fun found => found == name || found == other) =
      some ((entries.get? name).map ofJson) := by
  rw [← member?_ofMembers h name, member?, member?, filter_ofMembers (· == name),
    filter_ofMembers fun found => found == name || found == other]
  have hfilter : (entries.filter fun entry => entry.1 == name || entry.1 == other) =
      entries.filter fun entry => entry.1 == name := by
    apply List.filter_congr
    intro entry hentry
    have hne : entry.1 ≠ other := fun he => hother (he ▸ List.mem_map_of_mem hentry)
    simp [hne]
  rw [hfilter]

-- ---------------------------------------------------------------------------
-- Optional members
-- ---------------------------------------------------------------------------

theorem optionalText?_ofJson (text? : Option String) :
    optionalText? (text?.map (ofJson ∘ .string)) = some text? := by
  cases text? <;> rfl

theorem optionalTexts?_ofJson (texts : List String) :
    optionalTexts? (some (ofJson (.array (texts.map .string)))) = some texts := by
  rw [ofJson, ofItems_eq_map, List.map_map, optionalTexts?]
  exact mapM_map_eq_some fun text _ => rfl

theorem ofJson_ne_null {data : Json} (h : data ≠ .null) : ofJson data ≠ .null := by
  cases data <;> simp_all [ofJson]

theorem optionalJson?_ofJson {data? : Option Json}
    (h : ∀ data ∈ data?, data.IsStored ∧ data ≠ .null) :
    optionalJson? (data?.map ofJson) = some data? := by
  cases data? with
  | none => rfl
  | some data =>
    obtain ⟨hstored, hne⟩ := h data rfl
    have hdocument := ofJson_ne_null hne
    rw [Option.map_some, optionalJson?, toJson?_ofJson hstored]
    · rfl
    · simpa using hdocument

theorem ne_null_of_toJson? {document : Document} {data : Json} (hfinite : document.IsFinite)
    (hne : document ≠ .null) (h : document.toJson? = some data) : data ≠ .null := by
  rintro rfl
  cases hfinite with
  | null => exact hne rfl
  | float hvalue => simp [toJson?, hvalue] at h
  | array => simp [toJson?] at h
  | table => simp [toJson?, Json.ofMembers] at h
  | _ => cases h

theorem isStored_of_optionalJson? {document? : Option Document} {data? : Option Json}
    (hfinite : ∀ document ∈ document?, document.IsFinite)
    (h : optionalJson? document? = some data?) :
    ∀ data ∈ data?, data.IsStored ∧ data ≠ .null := by
  unfold optionalJson? at h
  split at h
  · cases h
    simp
  · cases h
    simp
  · next document hne =>
    obtain ⟨data, hdata, rfl⟩ := Option.map_eq_some_iff.mp h
    rintro _ ⟨rfl⟩
    exact ⟨isStored_of_toJson? document hdata,
      ne_null_of_toJson? (hfinite document rfl) (by simpa using hne) hdata⟩

end Document

-- ---------------------------------------------------------------------------
-- Properties
-- ---------------------------------------------------------------------------

theorem PropertyKind.ofName_dataName_of_known {kind : PropertyKind} (h : kind ∈ known) :
    ofName kind.dataName = kind := by
  revert kind
  decide

theorem PropertyKind.ofName_dataName_of_ofDocument? {document : Document} {kind : PropertyKind}
    (h : ofDocument? document = some kind) : ofName kind.dataName = kind := by
  unfold ofDocument? at h
  split at h
  · cases h
    rw [dataName_ofName]
  · exact ofName_dataName_of_known (List.mem_of_find?_eq_some h)
  · cases h

namespace Property

variable {property : Property}

structure WellFormed (property : Property) : Prop where
  kind : PropertyKind.ofName property.kind.dataName = property.kind
  default : ∀ data ∈ property.default?, data.IsStored ∧ data ≠ .null

theorem wellFormed_of_ofMembers? {name kind nullable default declaration : Option Document}
    (hfinite : ∀ document ∈ default, document.IsFinite)
    (h : ofMembers? name kind nullable default declaration = some property) :
    property.WellFormed := by
  simp only [ofMembers?, Option.bind_eq_bind, Option.bind_eq_some_iff] at h
  obtain ⟨_, -, _, -, _, -, _, hkind, _, -, _, hdefault, _, -, h⟩ := h
  cases h
  exact ⟨PropertyKind.ofName_dataName_of_ofDocument? hkind,
    Document.isStored_of_optionalJson? hfinite hdefault⟩

theorem wellFormed_of_ofDocument? {format : Document.Format} {document : Document}
    (hfinite : document.IsFinite) (h : ofDocument? format document = some property) :
    property.WellFormed := by
  cases hfinite with
  | table hmembers =>
    simp only [ofDocument?, Option.bind_eq_bind, Option.bind_eq_some_iff] at h
    obtain ⟨_, -, _, -, _, -, default, hdefault, _, -, h⟩ := h
    apply wellFormed_of_ofMembers? _ h
    rintro document ⟨rfl⟩
    obtain ⟨name, hmem⟩ := Document.mem_of_member? hdefault
    exact hmembers _ hmem
  | array hitems =>
    simp only [ofDocument?] at h
    split at h
    · apply wellFormed_of_ofMembers? _ h
      intro document hdocument
      exact hitems document (List.mem_of_getElem? hdocument)
    · cases h
  | _ => cases h

theorem nodup_members (property : Property) : (Entries.names property.members).Nodup := by
  obtain ⟨name, kind, nullable, default?, declaration?⟩ := property
  cases default? <;> cases declaration? <;> simp [members, Entries.names]

theorem toJson_eq (property : Property) :
    property.toJson = .object (Entries.sorted property.members) := by
  rw [toJson, Json.ofMembers, Entries.ofPairs_of_nodup property.nodup_members]

theorem type_not_mem_members (property : Property) : "type" ∉ Entries.names property.members := by
  obtain ⟨name, kind, nullable, default?, declaration?⟩ := property
  cases default? <;> cases declaration? <;> simp [members, Entries.names]

theorem get?_members (property : Property) :
    Entries.get? property.members "name" = some (.string property.name) ∧
      Entries.get? property.members "kind" = some (.string property.kind.dataName) ∧
      Entries.get? property.members "nullable" = some (.boolean property.nullable) ∧
      Entries.get? property.members "default" = property.default? ∧
      Entries.get? property.members "declaration" = property.declaration?.map .string := by
  obtain ⟨name, kind, nullable, default?, declaration?⟩ := property
  cases default? <;> cases declaration? <;> simp [members, Entries.get?_cons]

theorem WellFormed.ofDocument?_toJson (h : property.WellFormed) :
    ofDocument? .json (.ofJson property.toJson) = some property := by
  have hnodup := property.nodup_members
  have hsorted := Entries.nodup_names_sorted hnodup
  have htype : "type" ∉ (Entries.sorted property.members).names := by
    intro hmem
    have hmember := ((Entries.sorted_perm _).map Prod.fst).mem_iff.mp hmem
    exact property.type_not_mem_members hmember
  obtain ⟨hname, hkind, hnullable, hdefault, hdeclaration⟩ := property.get?_members
  rw [toJson_eq, Document.ofJson]
  simp only [ofDocument?, Document.member?_ofMembers hsorted,
    Document.member?_ofMembers_or hsorted htype, Entries.get?_sorted hnodup, hname, hkind,
    hnullable, hdefault, hdeclaration, Option.bind_eq_bind, Option.bind_some, Option.map_some,
    Option.map_map]
  simp [ofMembers?, Document.ofJson, Document.text?, PropertyKind.ofDocument?, h.kind,
    Document.optionalBoolean?, Document.optionalJson?_ofJson h.default,
    Document.optionalText?_ofJson]

/-- In data a kind has the name that templates see. -/
theorem exists_kind_toJson (property : Property) :
    ∃ members : Entries Json, property.toJson = .object members ∧
      members.get? "kind" = some (.string property.kind.name) := by
  refine ⟨_, property.toJson_eq, ?_⟩
  obtain ⟨-, hkind, -⟩ := property.get?_members
  rw [Entries.get?_sorted property.nodup_members, hkind, PropertyKind.dataName_eq_name]

end Property

-- ---------------------------------------------------------------------------
-- Classes
-- ---------------------------------------------------------------------------

namespace ClassSpec

variable {spec : ClassSpec}

structure WellFormed (spec : ClassSpec) : Prop where
  properties : ∀ property ∈ spec.properties, property.WellFormed
  nodup : spec.extra.names.Nodup
  unknown : ∀ name ∈ spec.extra.names, name ∉ memberNames
  stored : ∀ member ∈ spec.extra, member.2.IsStored

theorem wellFormed_of_optionalProperties? {format : Document.Format} {document? : Option Document}
    {properties : List Property} (hfinite : ∀ document ∈ document?, document.IsFinite)
    (h : optionalProperties? format document? = some properties) :
    ∀ property ∈ properties, property.WellFormed := by
  unfold optionalProperties? at h
  split at h
  · cases h
    simp
  · intro property hproperty
    obtain ⟨item, hitem, hread⟩ := mem_of_mapM_eq_some h hproperty
    cases hfinite _ rfl with
    | array hitems => exact Property.wellFormed_of_ofDocument? (hitems item hitem) hread
  · cases h

theorem names_of_membersToJson? {members : List (String × Document)} {data : List (String × Json)}
    (h : Document.membersToJson? members = some data) :
    Entries.names data = Entries.names members := by
  induction members generalizing data with
  | nil =>
    cases h
    rfl
  | cons member members ih =>
    obtain ⟨name, document⟩ := member
    simp only [Document.membersToJson?, Option.bind_eq_bind, Option.bind_eq_some_iff] at h
    obtain ⟨first, -, others, hothers, h⟩ := h
    cases h
    have hnames := ih hothers
    simp_all [Entries.names]

theorem exists_of_ofDocument? {format : Document.Format} {members : List (String × Document)}
    (h : ofDocument? format (.table members) = some spec) :
    (∃ document?, Document.member? members (· == "properties") = some document? ∧
      optionalProperties? format document? = some spec.properties) ∧
    ∃ extra, Document.membersToJson?
      (members.filter fun member => !memberNames.contains member.1) = some extra ∧
        spec.extra = .ofPairs extra := by
  simp only [ofDocument?, Option.bind_eq_bind, Option.bind_eq_some_iff] at h
  obtain ⟨_, -, _, -, _, -, _, -, _, -, _, -, _, -, _, -, _, -, document?, hmember, properties,
    hproperties, _, -, _, -, extra, hextra, h⟩ := h
  cases h
  exact ⟨⟨document?, hmember, hproperties⟩, extra, hextra, rfl⟩

theorem wellFormed_of_ofDocument? {format : Document.Format} {document : Document}
    (hfinite : document.IsFinite) (h : ofDocument? format document = some spec) :
    spec.WellFormed := by
  cases hfinite with
  | table hmembers =>
    obtain ⟨⟨document?, hmember, hproperties⟩, extra, hextra, hspec⟩ := exists_of_ofDocument? h
    have hnames := names_of_membersToJson? hextra
    have hmem : ∀ member ∈ spec.extra, member ∈ extra :=
      fun member hmember => Entries.mem_ofPairs (hspec ▸ hmember)
    refine ⟨?_, hspec ▸ Entries.nodup_names_ofPairs extra, ?_, ?_⟩
    · apply wellFormed_of_optionalProperties? _ hproperties
      rintro document ⟨rfl⟩
      obtain ⟨name, hmem⟩ := Document.mem_of_member? hmember
      exact hmembers _ hmem
    · intro name hname
      obtain ⟨member, hmember, rfl⟩ := List.mem_map.mp hname
      have hread : member.1 ∈ Entries.names extra := List.mem_map_of_mem (hmem member hmember)
      rw [hnames] at hread
      obtain ⟨found, hfound, hsame⟩ := List.mem_map.mp hread
      have hunknown := (List.mem_filter.mp hfound).2
      simpa [hsame] using hunknown
    · intro member hmember
      exact Document.isStored_of_membersToJson? _ hextra member (hmem member hmember)
  | _ => cases h

def ownMembers (spec : ClassSpec) : Entries Json :=
  [("name", .string spec.name)] ++
  (spec.base?.map fun name => ("base_name", .string name)).toList ++
  (spec.primaryField?.map fun name => ("primary_field", .string name)).toList ++
  [("imports", .array (spec.imports.map .string)),
    ("properties", .array (spec.properties.map Property.toJson)),
    ("methods", .array (spec.methods.map .string))]

theorem members_eq (spec : ClassSpec) : spec.members = spec.ownMembers ++ spec.extra := rfl

theorem names_ownMembers (spec : ClassSpec) :
    spec.ownMembers.names.Nodup ∧ ∀ name ∈ spec.ownMembers.names, name ∈ memberNames := by
  obtain ⟨name, base?, primaryField?, imports, properties, methods, extra⟩ := spec
  cases base? <;> cases primaryField? <;> simp [ownMembers, Entries.names, memberNames]

theorem get?_ownMembers (spec : ClassSpec) :
    spec.ownMembers.get? "name" = some (.string spec.name) ∧
      spec.ownMembers.get? "base_name" = spec.base?.map .string ∧
      spec.ownMembers.get? "primary_field" = spec.primaryField?.map .string ∧
      spec.ownMembers.get? "imports" = some (.array (spec.imports.map .string)) ∧
      spec.ownMembers.get? "properties" = some (.array (spec.properties.map Property.toJson)) ∧
      spec.ownMembers.get? "methods" = some (.array (spec.methods.map .string)) := by
  obtain ⟨name, base?, primaryField?, imports, properties, methods, extra⟩ := spec
  cases base? <;> cases primaryField? <;> simp [ownMembers, Entries.get?_cons]

namespace WellFormed

theorem nodup_members (h : spec.WellFormed) : (Entries.names spec.members).Nodup := by
  obtain ⟨hown, hknown⟩ := spec.names_ownMembers
  rw [members_eq, Entries.names, List.map_append, List.nodup_append]
  refine ⟨hown, h.nodup, ?_⟩
  rintro name hname _ hextra rfl
  exact h.unknown name hextra (hknown name hname)

theorem toJson_eq (h : spec.WellFormed) : spec.toJson = .object (Entries.sorted spec.members) := by
  rw [toJson, Json.ofMembers, Entries.ofPairs_of_nodup h.nodup_members]

theorem get?_sorted_members (h : spec.WellFormed) {name : String} (hname : name ∈ memberNames) :
    (Entries.sorted spec.members).get? name = spec.ownMembers.get? name := by
  have hextra : name ∉ spec.extra.names := fun hmem => h.unknown name hmem hname
  rw [Entries.get?_sorted h.nodup_members, members_eq, Entries.get?_append_of_not_mem hextra]

theorem filter_members (h : spec.WellFormed) :
    (spec.members.filter fun member => !memberNames.contains member.1) = spec.extra := by
  have hown : (spec.ownMembers.filter fun member => !memberNames.contains member.1) = [] := by
    apply List.filter_eq_nil_iff.mpr
    intro member hmember
    simpa using spec.names_ownMembers.2 member.1 (List.mem_map_of_mem hmember)
  have hextra : (spec.extra.filter fun member => !memberNames.contains member.1) = spec.extra := by
    apply List.filter_eq_self.mpr
    intro member hmember
    simpa using h.unknown member.1 (List.mem_map_of_mem hmember)
  rw [members_eq, List.filter_append, hown, hextra, List.nil_append]

/-- Among all members in order the extra ones are in order too. -/
theorem filter_sorted_members (h : spec.WellFormed) :
    ((Entries.sorted spec.members).filter fun member => !memberNames.contains member.1) =
      spec.extra.sorted := by
  apply Entries.IsSorted.eq_of_perm
  · exact (Entries.isSorted_sorted h.nodup_members).filter _
  · exact Entries.isSorted_sorted h.nodup
  · have hperm := (Entries.sorted_perm spec.members).filter
      fun member => !memberNames.contains member.1
    rw [h.filter_members] at hperm
    exact hperm.trans (Entries.sorted_perm spec.extra).symm

/-- A class description is read back from its data, with its extra members in order. -/
theorem ofDocument?_toJson (h : spec.WellFormed) :
    ofDocument? .json (.ofJson spec.toJson) = some { spec with extra := spec.extra.sorted } := by
  have hsorted := Entries.nodup_names_sorted h.nodup_members
  obtain ⟨hname, hbase, hprimary, himports, hproperties, hmethods⟩ := spec.get?_ownMembers
  have hextra : Document.membersToJson? (Document.ofMembers spec.extra.sorted) =
      some spec.extra.sorted := by
    apply Document.membersToJson?_ofMembers
    intro member hmember
    exact Document.toJson?_ofJson (h.stored member ((Entries.sorted_perm _).mem_iff.mp hmember))
  have hread : optionalProperties? .json
      (some (.ofJson (.array (spec.properties.map Property.toJson)))) = some spec.properties := by
    rw [Document.ofJson, Document.ofItems_eq_map, List.map_map, optionalProperties?]
    exact mapM_map_eq_some fun property hproperty =>
      (h.properties property hproperty).ofDocument?_toJson
  rw [h.toJson_eq, Document.ofJson]
  simp only [ofDocument?, Document.member?_ofMembers hsorted,
    Document.filter_ofMembers fun name => !memberNames.contains name, h.filter_sorted_members,
    hextra]
  simp (disch := decide) only [h.get?_sorted_members, hname, hbase, hprimary, himports,
    hproperties, hmethods, Option.bind_eq_bind, Option.bind_some, Option.map_some, Option.map_map,
    Document.optionalText?_ofJson, Document.optionalTexts?_ofJson, hread,
    Entries.ofPairs_of_nodup (Entries.nodup_names_sorted h.nodup)]
  rfl

theorem toJson_sorted (h : spec.WellFormed) :
    toJson { spec with extra := spec.extra.sorted } = spec.toJson := by
  have hperm : (members { spec with extra := spec.extra.sorted }).Perm spec.members :=
    (Entries.sorted_perm spec.extra).append_left spec.ownMembers
  exact Json.ofMembers_of_perm hperm h.nodup_members

end WellFormed

/-- Descriptions that differ in nothing but the order of their extra members. -/
structure SameAs (spec other : ClassSpec) : Prop where
  name : spec.name = other.name
  base : spec.base? = other.base?
  primaryField : spec.primaryField? = other.primaryField?
  imports : spec.imports = other.imports
  properties : spec.properties = other.properties
  methods : spec.methods = other.methods
  extra : ∀ name, spec.extra.get? name = other.extra.get? name

theorem WellFormed.sameAs_sorted (h : spec.WellFormed) :
    SameAs { spec with extra := spec.extra.sorted } spec :=
  ⟨rfl, rfl, rfl, rfl, rfl, rfl, Entries.get?_sorted h.nodup⟩

/-- A description that was read from JSON is read again from its data, and the data is written again
from what was read. Every property is among the data, with its kind as a name. -/
theorem ofDocument?_ofJson_toJson {document : Document} (hjson : document.IsJson)
    (h : ofDocument? .json document = some spec) :
    (∃ again, ofDocument? .json (.ofJson spec.toJson) = some again ∧ again.SameAs spec ∧
      again.toJson = spec.toJson) ∧
    ∃ members : Entries Json, spec.toJson = .object members ∧
      members.get? "properties" = some (.array (spec.properties.map Property.toJson)) ∧
      ∀ property ∈ spec.properties, ∃ fields : Entries Json, property.toJson = .object fields ∧
        fields.get? "kind" = some (.string property.kind.name) := by
  have hspec := wellFormed_of_ofDocument? hjson.isFinite h
  refine ⟨⟨_, hspec.ofDocument?_toJson, hspec.sameAs_sorted, hspec.toJson_sorted⟩,
    _, hspec.toJson_eq, ?_, fun property _ => property.exists_kind_toJson⟩
  rw [hspec.get?_sorted_members (by decide)]
  obtain ⟨-, -, -, -, hproperties, -⟩ := spec.get?_ownMembers
  exact hproperties

theorem ofDocument?_ofJson_toJson_list :
    let text :=
      "\x7b\"name\":\"A\",\"z\":1,\"a\":0,\"properties\":[[\"b\",\x7b\"time\":null\x7d,true,0]]\x7d"
    ∃ document spec again, Json.read? text = some document ∧
      ofDocument? .json document = some spec ∧
      spec.properties.map (·.kind) = [.time] ∧ spec.extra.names = ["z", "a"] ∧
      ofDocument? .json (.ofJson spec.toJson) = some again ∧ again.SameAs spec := by
  intro text
  have hread : ((Json.read? text).bind (ofDocument? .json)).map (fun spec =>
      (spec.properties.map (·.kind), spec.extra.names)) = some ([.time], ["z", "a"]) := by
    decide +kernel
  obtain ⟨spec, hread, hparts⟩ := Option.map_eq_some_iff.mp hread
  obtain ⟨document, hdocument, hspec⟩ := Option.bind_eq_some_iff.mp hread
  obtain ⟨hkinds, hnames⟩ := Prod.mk.inj hparts
  obtain ⟨⟨again, hagain, hsame, -⟩, -⟩ := ofDocument?_ofJson_toJson (.text hdocument) hspec
  exact ⟨document, spec, again, hdocument, hspec, hkinds, hnames, hagain, hsame⟩

end ClassSpec

end Stencil
