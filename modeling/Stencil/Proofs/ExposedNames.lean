import Stencil.Proofs.Generation
import Stencil.Proofs.Words

/-!
# Exposed names

Which names of properties can stand in code once they are exposed. A declared name is an
identifier, and so is the exposed one as long as names are exposed as they are. Camel case takes the
underscores away, so the character after the leading ones comes first: the exposed name is an
identifier just when there is such a character and it is a letter.
-/

namespace Stencil

-- ---------------------------------------------------------------------------
-- Camel case
-- ---------------------------------------------------------------------------

namespace Text

theorem forall_ascii {p : Char → Prop} (h : ∀ n < 0x80, p (Char.ofNat n)) {c : Char}
    (hc : c.toNat < 0x80) : p c := by
  have hchar := h c.toNat hc
  rwa [Char.ofNat_toNat] at hchar

def inCase (capital : Bool) (c : Char) : Char :=
  if capital then c.toUpper else c.toLower

/-- A text without its underscores, in lowercase but for the character after each underscore;
`capital` says that an underscore stands directly before the text. -/
def withHumps (capital : Bool) : List Char → List Char
  | [] => []
  | c :: text => if c = '_' then withHumps true text else inCase capital c :: withHumps false text

def meetsLetter (text : List Char) : Bool :=
  (text.dropWhile (· == '_')).head?.any Char.isAlpha

variable {capital : Bool} {c : Char} {text : List Char}

theorem toNat_lt_of_isNamePart (h : isNamePart c = true) : c.toNat < 0x80 := by
  have hc := toNat_of_isNamePart h
  omega

theorem toNat_inCase_lt (capital : Bool) (h : c.toNat < 0x80) : (inCase capital c).toNat < 0x80 :=
  forall_ascii (p := fun c => ∀ b, (inCase b c).toNat < 0x80) (by decide +kernel) h capital

theorem isNamePart_inCase (h : isNamePart c = true) : isNamePart (inCase capital c) = true :=
  forall_ascii (p := fun c => isNamePart c = true → ∀ b, isNamePart (inCase b c) = true)
    (by decide +kernel) (toNat_lt_of_isNamePart h) h capital

theorem isNameStart_inCase (h : isNamePart c = true) (hne : c ≠ '_') :
    isNameStart (inCase capital c) = c.isAlpha :=
  forall_ascii (p := fun c => isNamePart c = true → c ≠ '_' →
    ∀ b, isNameStart (inCase b c) = c.isAlpha)
    (by decide +kernel) (toNat_lt_of_isNamePart h) h hne capital

theorem isNameStart_toUpper (h : isNamePart c = true) : isNameStart c.toUpper = isNameStart c :=
  forall_ascii (p := fun c => isNameStart c.toUpper = isNameStart c) (by decide +kernel)
    (toNat_lt_of_isNamePart h)

theorem toLower_eq_self_iff (h : c.toNat < 0x80) : c.toLower = c ↔ c.isUpper = false :=
  forall_ascii (p := fun c => c.toLower = c ↔ c.isUpper = false) (by decide +kernel) h

theorem capitalize_of_ascii (h : ∀ d ∈ c :: text, d.toNat < 0x80) :
    capitalize (c :: text) = c.toUpper :: text.map Char.toLower := by
  obtain ⟨hc, htext⟩ := List.forall_mem_cons.mp h
  have hlower : text.flatMap lowerChar = text.map Char.toLower := by
    rw [List.map_eq_flatMap]
    exact List.flatMap_congr fun d hd => lowerChar_of_ascii (htext d hd)
  simp [capitalize, upperChar_of_ascii hc, hlower]

theorem lower_capitalize_of_ascii (h : ∀ d ∈ text, d.toNat < 0x80) :
    lower (capitalize text) = text.map Char.toLower := by
  cases text with
  | nil => rfl
  | cons c text =>
    have hascii : ∀ d ∈ capitalize (c :: text), d.toNat < 0x80 := by
      rw [capitalize_of_ascii h]
      obtain ⟨hc, htext⟩ := List.forall_mem_cons.mp h
      refine List.forall_mem_cons.mpr ⟨toNat_inCase_lt true hc, ?_⟩
      exact List.forall_mem_map.mpr fun d hd => toNat_inCase_lt false (htext d hd)
    rw [lower, lowerFrom_of_ascii [] hascii, capitalize_of_ascii h]
    simp

theorem mem_of_mem_split_fst {separator : Char} (h : c ∈ (split (· == separator) text).1) :
    c ∈ text := by
  rw [← join_split separator text, join]
  exact List.mem_append_left _ h

theorem flatMap_capitalize (h : ∀ d ∈ text, d.toNat < 0x80) :
    let (first, others) := split (· == '_') text
    first.map Char.toLower ++ others.flatMap capitalize = withHumps false text ∧
      capitalize first ++ others.flatMap capitalize = withHumps true text := by
  induction text with
  | nil => exact ⟨rfl, rfl⟩
  | cons c text ih =>
    obtain ⟨hascii, htext⟩ := List.forall_mem_cons.mp h
    obtain ⟨hlower, hcapital⟩ := ih htext
    by_cases hc : c = '_'
    · subst hc
      simpa [split, withHumps, capitalize] using hcapital
    · have hfirst : ∀ d ∈ c :: (split (· == '_') text).1, d.toNat < 0x80 :=
        List.forall_mem_cons.mpr ⟨hascii, fun d hd => htext d (mem_of_mem_split_fst hd)⟩
      simp [split, withHumps, hc, capitalize_of_ascii hfirst, inCase, ← hlower]

theorem joinUnderscored_of_ascii (h : ∀ d ∈ text, d.toNat < 0x80) :
    joinUnderscored text = withHumps false text := by
  have hfirst : ∀ d ∈ (split (· == '_') text).1, d.toNat < 0x80 :=
    fun d hd => h d (mem_of_mem_split_fst hd)
  calc joinUnderscored text
    _ = lower (capitalize (split (· == '_') text).1) ++
        (split (· == '_') text).2.flatMap capitalize := rfl
    _ = (split (· == '_') text).1.map Char.toLower ++
        (split (· == '_') text).2.flatMap capitalize := by rw [lower_capitalize_of_ascii hfirst]
    _ = withHumps false text := (flatMap_capitalize h).1

theorem isNamePart_withHumps (h : ∀ d ∈ text, isNamePart d = true) :
    ∀ d ∈ withHumps capital text, isNamePart d = true := by
  induction text generalizing capital with
  | nil => simp [withHumps]
  | cons c text ih =>
    obtain ⟨hc, htext⟩ := List.forall_mem_cons.mp h
    rw [withHumps]
    split
    · exact ih htext
    · exact List.forall_mem_cons.mpr ⟨isNamePart_inCase hc, ih htext⟩

theorem isIdentifier_withHumps (h : ∀ d ∈ text, isNamePart d = true) :
    isIdentifier (withHumps capital text) = meetsLetter text := by
  induction text generalizing capital with
  | nil => rfl
  | cons c text ih =>
    obtain ⟨hc, htext⟩ := List.forall_mem_cons.mp h
    by_cases hne : c = '_'
    · subst hne
      simpa [withHumps, meetsLetter] using ih htext
    · have hall : (withHumps false text).all isNamePart = true :=
        List.all_eq_true.mpr (isNamePart_withHumps htext)
      simp [withHumps, meetsLetter, hne, isIdentifier, isNameStart_inCase hc hne, hall]

theorem isIdentifier_upperFirst (h : ∀ d ∈ text, isNamePart d = true) :
    isIdentifier (upperFirst text) = isIdentifier text := by
  cases text with
  | nil => rfl
  | cons c text =>
    obtain ⟨hc, -⟩ := List.forall_mem_cons.mp h
    simp [upperFirst, upperChar_of_ascii (toNat_lt_of_isNamePart hc), isIdentifier,
      isNameStart_toUpper hc]

end Text

-- ---------------------------------------------------------------------------
-- Properties
-- ---------------------------------------------------------------------------

namespace Property

variable {settings : Settings} {property : Property}

theorem isNamePart_exposedName (h : Text.isIdentifier property.name.toList = true) :
    ∀ c ∈ (property.exposedName settings).toList, Text.isNamePart c = true := by
  have hname := Text.isNamePart_of_isIdentifier h
  unfold exposedName Settings.exposedName
  split
  · rw [String.toList_ofList,
      Text.joinUnderscored_of_ascii fun c hc => Text.toNat_lt_of_isNamePart (hname c hc)]
    exact Text.isNamePart_withHumps hname
  · exact hname

theorem isIdentifier_exposedName (h : Text.isIdentifier property.name.toList = true) :
    Text.isIdentifier (property.exposedName settings).toList = true ↔
      settings.camelCase = false ∨ Text.meetsLetter property.name.toList = true := by
  have hname := Text.isNamePart_of_isIdentifier h
  unfold exposedName Settings.exposedName
  split
  · next hcamel =>
    rw [String.toList_ofList,
      Text.joinUnderscored_of_ascii fun c hc => Text.toNat_lt_of_isNamePart (hname c hc),
      Text.isIdentifier_withHumps hname]
    simp [hcamel]
  · next hplain => simp [hplain, h]

theorem isIdentifier_exposedUpper (h : Text.isIdentifier property.name.toList = true) :
    Text.isIdentifier (property.exposedUpper settings).toList = true ↔
      settings.camelCase = false ∨ Text.meetsLetter property.name.toList = true := by
  rw [exposedUpper, String.toList_ofList,
    Text.isIdentifier_upperFirst (isNamePart_exposedName h), isIdentifier_exposedName h]

end Property

-- ---------------------------------------------------------------------------
-- Classes
-- ---------------------------------------------------------------------------

def Value.NamesIdentifiers (entry : Value) : Prop :=
  ∃ name upper, entry.step? "name" = some (.string name) ∧
    entry.step? "name_upper" = some (.string upper) ∧
      Text.isIdentifier name.toList = true ∧ Text.isIdentifier upper.toList = true

/-- The names of an entry can stand in code just when its property is exposed as declared, or the
first character of the declared name other than an underscore is a letter. -/
def Property.NamedBy (settings : Settings) (property : Property) (entry : Value) : Prop :=
  entry.NamesIdentifiers ↔
    settings.camelCase = false ∨ Text.meetsLetter property.name.toList = true

namespace Property

variable {settings : Settings} {property : Property}

theorem namedBy_of_fields {entry : Value} (h : Text.isIdentifier property.name.toList = true)
    (hname : entry.step? "name" = some (.string (property.exposedName settings)))
    (hupper : entry.step? "name_upper" = some (.string (property.exposedUpper settings))) :
    property.NamedBy settings entry := by
  simp [NamedBy, Value.NamesIdentifiers, hname, hupper, isIdentifier_exposedName h,
    isIdentifier_exposedUpper h]

theorem namedBy_view (h : Text.isIdentifier property.name.toList = true) :
    property.NamedBy settings (property.view settings) :=
  namedBy_of_fields h rfl rfl

theorem namedBy_dateView (h : Text.isIdentifier property.name.toList = true) :
    property.NamedBy settings (property.dateView settings) :=
  namedBy_of_fields h rfl rfl

end Property

namespace ClassSpec

variable {spec : ClassSpec} {settings : Settings} {context : Context}

theorem checkDeclared_eq_ok_iff {className : String} {seen names : List String} :
    checkDeclared className seen names = .ok () ↔
      (∀ name ∈ names, Text.isIdentifier name.toList = true ∧ name ∉ seen) ∧ names.Nodup := by
  induction names generalizing seen with
  | nil => simp [checkDeclared]
  | cons name names ih =>
    rw [checkDeclared]
    by_cases hname : Text.isIdentifier name.toList = true
    · by_cases hseen : name ∈ seen
      · simp [hname, hseen]
      · simp only [hname, hseen, List.contains_iff_mem, List.mem_cons, List.nodup_cons]
        grind
    · simp [hname]

theorem isIdentifier_of_validate (h : spec.validate = .ok ()) :
    ∀ property ∈ spec.properties, Text.isIdentifier property.name.toList = true := by
  unfold validate at h
  split at h
  · cases h
  split at h
  · cases h
  intro property hproperty
  exact ((checkDeclared_eq_ok_iff.mp h).1 _ (List.mem_map_of_mem hproperty)).1

theorem validate_of_validateFor (h : spec.validateFor settings = .ok ()) :
    spec.validate = .ok () := by
  unfold validateFor at h
  cases hvalid : spec.validate with
  | error fault => simp [hvalid] at h
  | ok _ => rfl

theorem get?_foldl_addExtra {extra : Entries Json} {name : String} {value : Value}
    (h : Entries.get? context name = some value) :
    Entries.get? (extra.foldl addExtra context) name = some value := by
  induction extra generalizing context with
  | nil => exact h
  | cons entry extra ih =>
    apply ih
    unfold addExtra
    split
    · exact h
    · next hmissing =>
      have hne : name ≠ entry.1 := by
        rintro rfl
        simp [Entries.contains, h] at hmissing
      rw [Entries.get?_insert, if_neg hne, h]

/-- The context of a class has an entry for each property, and another for each that holds a date.
Which of them have names that can stand in code is decided by the declared names alone. -/
theorem toContext_names (h : spec.toContext settings = .ok context) :
    ∃ entries dates, Entries.get? context "properties" = some (.sequence entries) ∧
      Entries.get? context "datetime_fields" = some (.sequence dates) ∧
      List.Forall₂ (Property.NamedBy settings) spec.properties entries ∧
      List.Forall₂ (Property.NamedBy settings)
        (spec.properties.filter fun property => property.kind.holdsDate) dates := by
  obtain ⟨hvalid, rfl⟩ := toContext_eq_ok_iff.mp h
  have hnames := isIdentifier_of_validate (validate_of_validateFor hvalid)
  refine ⟨_, _, get?_foldl_addExtra rfl, get?_foldl_addExtra rfl, ?_, ?_⟩
  · rw [List.forall₂_map_right_iff, List.forall₂_same]
    intro property hproperty
    exact Property.namedBy_view (hnames property hproperty)
  · rw [dateProperties, List.forall₂_map_right_iff, List.forall₂_same]
    intro property hproperty
    exact Property.namedBy_dateView (hnames property (List.mem_of_mem_filter hproperty))

theorem toContext_names_mixed :
    let settings : Settings := ⟨"", 2, [], true⟩
    let born : Property := ⟨"_born_on", .date, false, none, none⟩
    let second : Property := ⟨"_2nd", .string, false, none, none⟩
    let spec : ClassSpec := ⟨"Pet", none, none, [], [born, second], [], []⟩
    ∃ context entries, spec.toContext settings = .ok context ∧
      Entries.get? context "properties" = some (.sequence entries) ∧
      List.Forall₂ (Property.NamedBy settings) [born, second] entries ∧
      Text.meetsLetter born.name.toList = true ∧ Text.meetsLetter second.name.toList = false := by
  intro settings born second spec
  have hcontext : spec.toContext settings = .ok (spec.context settings) :=
    toContext_eq_ok_iff.mpr ⟨by decide, rfl⟩
  obtain ⟨entries, -, hentries, -, hnames, -⟩ := toContext_names hcontext
  exact ⟨_, entries, hcontext, hentries, hnames, by decide, by decide⟩

/-- A property that is nothing but an underscore is exposed under an empty name. -/
theorem empty_name_exposed :
    ¬∀ (spec : ClassSpec) (settings : Settings) (context : Context) (entries : List Value),
      spec.toContext settings = .ok context →
        Entries.get? context "properties" = some (.sequence entries) →
          ∀ entry ∈ entries, entry.NamesIdentifiers := by
  intro h
  let property : Property := ⟨"_", .date, false, none, none⟩
  let spec : ClassSpec := ⟨"User", none, none, [], [property], [], []⟩
  have hcontext : spec.toContext .default = .ok (spec.context .default) :=
    toContext_eq_ok_iff.mpr ⟨by decide, rfl⟩
  have hnames := h spec .default _ [property.view .default] hcontext rfl _
    (List.mem_singleton_self _)
  have hletter := (Property.namedBy_view (by decide)).mp hnames
  exact absurd hletter (by decide)

end ClassSpec

end Stencil
