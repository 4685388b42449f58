import Stencil.Proofs.Usability

/-!
# Contexts of classes

The context of a class has the computed entries in fixed order, and after them the extra members
that no computed entry hides. What it says of dates and truth values is read off the entries of the
properties.
-/

namespace Stencil

theorem Entries.contains_iff_mem {α : Type} {entries : Entries α} {name : String} :
    entries.contains name = true ↔ name ∈ entries.names := by
  induction entries with
  | nil => simp [contains, names]
  | cons entry entries ih =>
    obtain ⟨other, value⟩ := entry
    rw [contains, get?_cons]
    split
    · next hname => simp [names, hname]
    · next hname =>
      rw [← contains, ih]
      simp [names, hname]

namespace ClassSpec

variable {spec : ClassSpec} {settings : Settings} {context : Context} {extra : Entries Json}
  {entry : String × Json} {names : List String}

-- ---------------------------------------------------------------------------
-- Extra members
-- ---------------------------------------------------------------------------

def computedNames : List String :=
  ["prefix", "name", "name_lower", "base_name", "primary_field", "imports", "methods", "properties",
    "has_date", "has_bool", "datetime_fields"]

def passedOn (extra : Entries Json) : Entries Json :=
  extra.filter fun entry => entry.1 ∉ computedNames

def extraView (entry : String × Json) : String × Value :=
  (entry.1, .ofJson entry.2)

theorem names_computed (spec : ClassSpec) (settings : Settings) :
    (spec.computed settings).names = computedNames := rfl

theorem addExtra_of_mem (h : entry.1 ∈ context.names) : addExtra context entry = context := by
  simp [addExtra, Entries.contains_iff_mem.mpr h]

theorem addExtra_of_not_mem (h : entry.1 ∉ context.names) :
    addExtra context entry = context ++ [extraView entry] := by
  have hmissing : context.contains entry.1 ≠ true := fun hmem => h (Entries.contains_iff_mem.mp hmem)
  simp [addExtra, hmissing, Entries.insert_of_not_mem h, extraView]

theorem subset_names_addExtra (context : Context) (entry : String × Json) :
    context.names ⊆ (addExtra context entry).names := by
  by_cases h : entry.1 ∈ context.names
  · rw [addExtra_of_mem h]
    exact List.Subset.refl _
  · rw [addExtra_of_not_mem h]
    simp [Entries.names]

theorem foldl_addExtra_filter (h : names ⊆ context.names) :
    extra.foldl addExtra context =
      (extra.filter fun entry => entry.1 ∉ names).foldl addExtra context := by
  induction extra generalizing context with
  | nil => rfl
  | cons entry extra ih =>
    by_cases hmem : entry.1 ∈ names
    · rw [List.filter_cons_of_neg (by simpa using hmem), List.foldl_cons, addExtra_of_mem (h hmem)]
      exact ih h
    · rw [List.filter_cons_of_pos (by simpa using hmem), List.foldl_cons, List.foldl_cons]
      exact ih (List.Subset.trans h (subset_names_addExtra context entry))

theorem foldl_addExtra_of_nodup (h : (context.names ++ extra.names).Nodup) :
    extra.foldl addExtra context = context ++ extra.map extraView := by
  induction extra generalizing context with
  | nil => simp
  | cons entry extra ih =>
    have hnew : entry.1 ∉ context.names := by
      intro hmem
      exact (List.nodup_append.mp h).2.2 _ hmem _ List.mem_cons_self rfl
    rw [List.foldl_cons, addExtra_of_not_mem hnew, ih]
    · simp
    · simpa [Entries.names, extraView] using h

/-- Only the extra members that are passed on count for the context. -/
theorem context_of_passedOn (h : passedOn extra = passedOn spec.extra) :
    ClassSpec.context { spec with extra } settings = spec.context settings := by
  have hnames : computedNames ⊆ (spec.computed settings).names := List.Subset.refl _
  calc ClassSpec.context { spec with extra } settings
    _ = extra.foldl addExtra (spec.computed settings) := rfl
    _ = (passedOn extra).foldl addExtra (spec.computed settings) := foldl_addExtra_filter hnames
    _ = (passedOn spec.extra).foldl addExtra (spec.computed settings) := by rw [h]
    _ = spec.context settings := (foldl_addExtra_filter hnames).symm

theorem names_passedOn (extra : Entries Json) :
    (passedOn extra).names = extra.names.filter fun name => name ∉ computedNames := by
  simp [Entries.names, passedOn, List.filter_map, Function.comp_def]

theorem context_eq (h : spec.extra.names.Nodup) :
    spec.context settings = spec.computed settings ++ (passedOn spec.extra).map extraView := by
  have hnames : computedNames ⊆ (spec.computed settings).names := List.Subset.refl _
  rw [ClassSpec.context, foldl_addExtra_filter hnames]
  apply foldl_addExtra_of_nodup
  rw [names_computed]
  change (computedNames ++ (passedOn spec.extra).names).Nodup
  rw [names_passedOn, List.nodup_append]
  refine ⟨by decide, h.filter _, ?_⟩
  rintro name hname _ hmem rfl
  simpa [hname] using List.of_mem_filter hmem

end ClassSpec

-- ---------------------------------------------------------------------------
-- Entries of properties
-- ---------------------------------------------------------------------------

namespace Value

/-- The entry that shows a date among its like: the names alone. -/
def namesOnly (entry : Value) : Value :=
  .mapping [("name", (entry.step? "name").getD .absent),
    ("name_upper", (entry.step? "name_upper").getD .absent)]

def saysDate (entry : Value) : Bool :=
  match entry.step? "kind" with
  | some (.string kind) => kind == "date" || kind == "datetime"
  | _ => false

end Value

namespace PropertyKind

theorem holdsDate_iff_name {kind : PropertyKind} (h : ofName kind.name = kind) :
    kind.holdsDate = (kind.name == "date" || kind.name == "datetime") := by
  cases kind with
  | other name =>
    have hdate : name ≠ "date" := by
      rintro rfl
      exact absurd h (by decide)
    have hdatetime : name ≠ "datetime" := by
      rintro rfl
      exact absurd h (by decide)
    simp [holdsDate, PropertyKind.name, hdate, hdatetime]
  | _ => rfl

end PropertyKind

namespace Property

variable {settings : Settings} {property : Property}

theorem step?_name_view : (property.view settings).step? "name" =
    some (.string (property.exposedName settings)) := rfl

theorem saysDate_view (h : PropertyKind.ofName property.kind.name = property.kind) :
    (property.view settings).saysDate = property.kind.holdsDate := by
  rw [PropertyKind.holdsDate_iff_name h]
  rfl

end Property

namespace ClassSpec

variable {spec : ClassSpec} {settings : Settings} {context : Context}

theorem nodup_names_of_view (h : spec.validateFor settings = .ok ()) :
    ((spec.properties.map (·.view settings)).map (·.step? "name")).Nodup := by
  have hexposed := (validateFor_eq_ok_iff_usable.mp h).exposed
  have hnames : (spec.properties.map (·.view settings)).map (·.step? "name") =
      (spec.declaredNames.map settings.exposedName).map fun name => some (.string name) := by
    simp [declaredNames, Property.step?_name_view, Property.exposedName]
  rw [hnames]
  refine hexposed.map ?_
  intro a b hab
  simpa using hab

theorem dateViews_eq (spec : ClassSpec) (settings : Settings) :
    spec.dateProperties.map (·.dateView settings) =
      ((spec.properties.zip (spec.properties.map (·.view settings))).filter
        fun pair => pair.1.kind.holdsDate).map fun pair => pair.2.namesOnly := by
  rw [← List.map_prod_left_eq_zip, List.filter_map, List.map_map]
  rfl

theorem dateViews_of_named (h : ∀ property ∈ spec.properties,
    PropertyKind.ofName property.kind.name = property.kind) :
    spec.dateProperties.map (·.dateView settings) =
      ((spec.properties.map (·.view settings)).filter Value.saysDate).map Value.namesOnly := by
  have hfilter : spec.dateProperties =
      spec.properties.filter (Value.saysDate ∘ (·.view settings)) :=
    List.filter_congr fun property hproperty => (Property.saysDate_view (h property hproperty)).symm
  rw [hfilter, List.filter_map, List.map_map]
  rfl

theorem any_holdsDate (spec : ClassSpec) (settings : Settings) :
    spec.properties.any (·.kind.holdsDate) =
      !(spec.dateProperties.map (·.dateView settings)).isEmpty := by
  rw [List.isEmpty_map, dateProperties]
  induction spec.properties with
  | nil => rfl
  | cons property properties ih =>
    by_cases h : property.kind.holdsDate = true
    · simp [h]
    · simp [h, ih]

theorem any_boolean (spec : ClassSpec) :
    spec.properties.any (·.kind == .boolean) =
      decide (∃ property ∈ spec.properties, property.kind = .boolean) := by
  rw [Bool.eq_iff_iff]
  simp

/-- What the context of a class says of its properties: an entry for each, in order and under
distinct names, and among them again the names of those that hold a date. -/
structure Summary (spec : ClassSpec) (settings : Settings) (context : Context)
    (entries dates : List Value) : Prop where
  properties : Entries.get? context "properties" = some (.sequence entries)
  dateFields : Entries.get? context "datetime_fields" = some (.sequence dates)
  views : entries = spec.properties.map (·.view settings)
  distinct : (entries.map (·.step? "name")).Nodup
  dateViews : dates = ((spec.properties.zip entries).filter
    fun pair => pair.1.kind.holdsDate).map fun pair => pair.2.namesOnly
  /-- Where no kind goes by the name of another, the entries themselves say which hold a date. -/
  datesOfEntries : (∀ property ∈ spec.properties,
    PropertyKind.ofName property.kind.name = property.kind) →
      dates = (entries.filter Value.saysDate).map Value.namesOnly
  hasDate : Entries.get? context "has_date" = some (.boolean (!dates.isEmpty))
  hasBool : Entries.get? context "has_bool" =
    some (.boolean (decide (∃ property ∈ spec.properties, property.kind = .boolean)))

theorem exists_summary (h : spec.validateFor settings = .ok ()) :
    ∃ entries dates, spec.Summary settings (spec.context settings) entries dates := by
  refine ⟨_, _, get?_foldl_addExtra rfl, get?_foldl_addExtra rfl, rfl, nodup_names_of_view h,
    dateViews_eq spec settings, dateViews_of_named, ?_, ?_⟩
  · apply get?_foldl_addExtra
    rw [← any_holdsDate]
    rfl
  · apply get?_foldl_addExtra
    rw [← any_boolean]
    rfl

/-- The context of a class is complete: the computed entries, then the extra members that they do
not hide. Other extra members under computed names make no difference. -/
theorem toContext_complete (hextra : spec.extra.names.Nodup)
    (h : spec.toContext settings = .ok context) :
    context = spec.computed settings ++ (passedOn spec.extra).map extraView ∧
    context.names = computedNames ++ spec.extra.names.filter (fun name => name ∉ computedNames) ∧
    (∀ extra, passedOn extra = passedOn spec.extra →
      toContext { spec with extra } settings = .ok context) ∧
    ∃ entries dates, spec.Summary settings context entries dates := by
  obtain ⟨hvalid, rfl⟩ := toContext_eq_ok_iff.mp h
  have hcontext : spec.context settings = _ := context_eq hextra
  refine ⟨hcontext, ?_, ?_, exists_summary hvalid⟩
  · calc (spec.context settings).names
      _ = (spec.computed settings).names ++ (passedOn spec.extra).names := by
        simp [hcontext, Entries.names, extraView, Function.comp_def]
      _ = computedNames ++ spec.extra.names.filter (fun name => name ∉ computedNames) := by
        rw [names_computed, names_passedOn]
  · intro extra hpassed
    exact toContext_eq_ok_iff.mpr ⟨hvalid, context_of_passedOn hpassed⟩

theorem toContext_complete_hidden :
    let joined : Property := ⟨"date_joined", .datetime, false, none, none⟩
    let other : Property := ⟨"expiry", .other "date", false, none, none⟩
    let spec : ClassSpec := ⟨"User", none, none, [], [joined, other], [],
      [("name", .string "Other"), ("package", .string "com.example"), ("base_name", .null)]⟩
    let extra : Entries Json := [("package", .string "com.example"), ("has_date", .boolean false)]
    spec.extra.names.Nodup ∧ ∃ context, spec.toContext .default = .ok context ∧
      context.names = computedNames ++ ["package"] ∧
      toContext { spec with extra } .default = .ok context ∧
      ∃ entries, spec.Summary .default context entries [joined.dateView .default] := by
  intro joined other spec extra
  have hextra : spec.extra.names.Nodup := by decide
  have hcontext : spec.toContext .default = .ok (spec.context .default) :=
    toContext_eq_ok_iff.mpr ⟨by decide, rfl⟩
  obtain ⟨-, hnames, hpassed, entries, dates, hsummary⟩ := toContext_complete hextra hcontext
  have hdates : dates = [joined.dateView .default] := by
    rw [hsummary.dateViews, hsummary.views]
    rfl
  exact ⟨hextra, _, hcontext, hnames, hpassed extra rfl, entries, hdates ▸ hsummary⟩

end ClassSpec

end Stencil
