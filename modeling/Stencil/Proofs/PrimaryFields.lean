import Stencil.Proofs.ExposedNames

/-!
# Primary fields

Which property identifies an object is said in the description, or it is the one declared as `id`.
Templates see the declared name as it is said, but the exposed name of `id`. So the name that they
see is the exposed one of the property just when names are exposed as declared, or the declared
name is in camel case already: without underscores and without capitals.
-/

namespace Stencil

-- ---------------------------------------------------------------------------
-- Names in camel case
-- ---------------------------------------------------------------------------

namespace Text

variable {capital : Bool} {text : List Char}

theorem length_withHumps (capital : Bool) (text : List Char) :
    (withHumps capital text).length + text.count '_' = text.length := by
  induction text generalizing capital with
  | nil => rfl
  | cons c text ih =>
    by_cases hc : c = '_'
    · simp [withHumps, hc, ← ih true]
      omega
    · simp [withHumps, hc, ← ih false]
      omega

theorem withHumps_of_not_mem (h : '_' ∉ text) : withHumps false text = text.map Char.toLower := by
  induction text with
  | nil => rfl
  | cons c text ih =>
    obtain ⟨hc, htext⟩ := List.ne_and_not_mem_of_not_mem_cons h
    simp [withHumps, hc.symm, inCase, ih htext]

theorem withHumps_eq_self_iff (h : ∀ c ∈ text, c.toNat < 0x80) :
    withHumps false text = text ↔ ∀ c ∈ text, c ≠ '_' ∧ c.isUpper = false := by
  by_cases hmem : '_' ∈ text
  · have hlength := length_withHumps false text
    have hcount : 0 < text.count '_' := List.count_pos_iff.mpr hmem
    have hne : withHumps false text ≠ text := by
      intro heq
      rw [heq] at hlength
      omega
    refine iff_of_false hne fun hplain => ?_
    exact (hplain _ hmem).1 rfl
  · have hmap : text.map Char.toLower = text ↔ ∀ c ∈ text, c.toLower = c := by
      simpa using List.map_inj_left (f := Char.toLower) (g := id) (l := text)
    rw [withHumps_of_not_mem hmem, hmap]
    refine forall₂_congr fun c hc => ?_
    have hne : c ≠ '_' := by
      rintro rfl
      exact hmem hc
    simp [toLower_eq_self_iff (h c hc), hne]

end Text

namespace Property

variable {settings : Settings} {property : Property}

theorem exposedName_eq_name_iff (h : Text.isIdentifier property.name.toList = true) :
    property.exposedName settings = property.name ↔
      settings.camelCase = false ∨ ∀ c ∈ property.name.toList, c ≠ '_' ∧ c.isUpper = false := by
  have hname : ∀ c ∈ property.name.toList, c.toNat < 0x80 := fun c hc =>
    Text.toNat_lt_of_isNamePart (Text.isNamePart_of_isIdentifier h c hc)
  unfold exposedName Settings.exposedName
  split
  · next hcamel =>
    rw [Text.joinUnderscored_of_ascii hname, ← Text.withHumps_eq_self_iff hname,
      ← String.toList_inj, String.toList_ofList]
    simp [hcamel]
  · next hplain => simp [hplain]

end Property

namespace ClassSpec

variable {spec : ClassSpec} {settings : Settings} {context : Context}

-- ---------------------------------------------------------------------------
-- Primary fields
-- ---------------------------------------------------------------------------

/-- A property is the one that identifies an object: it is said to be, or it is declared as `id`
and nothing is said. -/
def IsPrimary (spec : ClassSpec) (property : Property) : Prop :=
  spec.primaryField? = some property.name ∨ spec.primaryField? = none ∧ property.name = "id"

/-- A primary field that is said is shown by the exposed name just when this is the declared one,
and `id` is always shown by the exposed name. -/
structure PrimaryShown (spec : ClassSpec) (settings : Settings) (shown : Value)
    (property : Property) (entry : Value) : Prop where
  said : spec.primaryField? = some property.name →
    (entry.step? "name" = some shown ↔
      settings.camelCase = false ∨ ∀ c ∈ property.name.toList, c ≠ '_' ∧ c.isUpper = false)
  unsaid : spec.primaryField? = none → property.name = "id" → entry.step? "name" = some shown

theorem primaryName?_of_id {property : Property} (h : spec.primaryField? = none)
    (hmem : property ∈ spec.properties) (hid : property.name = "id") :
    spec.primaryName? settings = some (property.exposedName settings) := by
  obtain ⟨found, hfound⟩ : ∃ found, spec.properties.find? (·.name == "id") = some found :=
    Option.isSome_iff_exists.mp (List.find?_isSome.mpr ⟨property, hmem, by simp [hid]⟩)
  have hname : found.name = "id" := by simpa using List.find?_some hfound
  simp [primaryName?, h, hfound, Property.exposedName, hname, hid]

theorem primaryName?_of_no_id (h : spec.primaryField? = none) (hid : "id" ∉ spec.declaredNames) :
    spec.primaryName? settings = none := by
  have hfind : spec.properties.find? (·.name == "id") = none := by
    rw [List.find?_eq_none]
    intro property hmem hname
    exact hid (List.mem_map.mpr ⟨property, hmem, by simpa using hname⟩)
  simp [primaryName?, h, hfind]

theorem primaryShown_view {property : Property} (hmem : property ∈ spec.properties)
    (hname : Text.isIdentifier property.name.toList = true) :
    spec.PrimaryShown settings (.ofText? (spec.primaryName? settings)) property
      (property.view settings) := by
  constructor
  · intro hsaid
    rw [← Property.exposedName_eq_name_iff hname]
    simp [primaryName?, hsaid, Value.ofText?, Property.view, Value.step?, Entries.get?_cons]
  · intro hunsaid hid
    rw [primaryName?_of_id hunsaid hmem hid]
    rfl

/-- A context shows the primary field as it is said, or else by the exposed name of the property
declared as `id`, if there is one. What is said is the exposed name of its property just when names
are exposed as declared or it is in camel case already. -/
theorem toContext_primaryField (h : spec.toContext settings = .ok context) :
    ∃ entries shown, Entries.get? context "properties" = some (.sequence entries) ∧
      Entries.get? context "primary_field" = some shown ∧
      List.Forall₂ (spec.PrimaryShown settings shown) spec.properties entries ∧
      (∀ name, spec.primaryField? = some name → shown = .string name) ∧
      (spec.primaryField? = none → "id" ∉ spec.declaredNames → shown = .absent) := by
  obtain ⟨hvalid, rfl⟩ := toContext_eq_ok_iff.mp h
  have hnames := isIdentifier_of_validate (validate_of_validateFor hvalid)
  refine ⟨_, _, get?_foldl_addExtra rfl, get?_foldl_addExtra rfl, ?_, ?_, ?_⟩
  · rw [List.forall₂_map_right_iff, List.forall₂_same]
    intro property hmem
    exact primaryShown_view hmem (hnames property hmem)
  · intro name hsaid
    simp [primaryName?, hsaid, Value.ofText?]
  · intro hunsaid hid
    simp [primaryName?_of_no_id hunsaid hid, Value.ofText?]

theorem toContext_primaryField_word :
    let slug : Property := ⟨"slug", .string, false, none, none⟩
    let published : Property := ⟨"published_on", .date, false, none, none⟩
    let spec : ClassSpec := ⟨"Article", none, some "slug", [], [slug, published], [], []⟩
    ∃ context entries, spec.toContext .default = .ok context ∧
      Entries.get? context "properties" = some (.sequence entries) ∧
      Entries.get? context "primary_field" = some (.string "slug") ∧
      ∃ entry ∈ entries, entry.step? "name" = some (.string "slug") := by
  intro slug published spec
  have hcontext : spec.toContext .default = .ok (spec.context .default) :=
    toContext_eq_ok_iff.mpr ⟨by decide, rfl⟩
  obtain ⟨entries, shown, hentries, hshown, hviews, hsaid, -⟩ := toContext_primaryField hcontext
  obtain rfl := hsaid "slug" rfl
  cases hviews with
  | cons hslug _ =>
    refine ⟨_, _, hcontext, hentries, hshown, _, List.mem_cons_self, ?_⟩
    exact (hslug.said rfl).mpr (.inr (by simp [slug]))

/-- A primary field with an underscore is not shown by its exposed name. -/
theorem primary_field_not_exposed :
    ¬∀ (spec : ClassSpec) (settings : Settings) (context : Context) (entries : List Value),
      spec.toContext settings = .ok context →
        Entries.get? context "properties" = some (.sequence entries) →
          ∀ (j : Nat) (property : Property) (entry : Value), spec.properties[j]? = some property →
            entries[j]? = some entry → spec.IsPrimary property →
              Entries.get? context "primary_field" = entry.step? "name" := by
  intro h
  let property : Property := ⟨"user_id", .integer, false, none, none⟩
  let spec : ClassSpec := ⟨"User", none, some "user_id", [], [property], [], []⟩
  have hcontext : spec.toContext .default = .ok (spec.context .default) :=
    toContext_eq_ok_iff.mpr ⟨by decide, rfl⟩
  have hname : some (Value.string "user_id") = some (.string (property.exposedName .default)) :=
    h spec .default _ [property.view .default] hcontext rfl 0 property _ rfl rfl (.inl rfl)
  have hexposed : "user_id" = property.exposedName .default := by simpa using hname
  have hplain := (Property.exposedName_eq_name_iff (by decide)).mp hexposed.symm
  simp [property, Settings.default] at hplain

end ClassSpec

end Stencil
