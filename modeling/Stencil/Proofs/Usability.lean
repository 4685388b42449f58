import Stencil.Proofs.ExposedNames

/-!
# Usable descriptions

A class description is usable under settings when its name and the names of its properties are
identifiers and the exposed names are distinct. The checks accept just these. Each goes through the
names in order and blames the first that is at odds with what stands before it.
-/

namespace Stencil

-- ---------------------------------------------------------------------------
-- Positions in a list
-- ---------------------------------------------------------------------------

section
variable {α β : Type} {atOdds : List α → α → Prop} {items before after : List α} {item : α}

/-- The positions of what is at odds with all that stands before it. -/
def positions (atOdds : List α → α → Prop) (items : List α) : Set Nat :=
  {j | ∃ item, items[j]? = some item ∧ atOdds (items.take j) item}

/-- Something has the same image as one that stands before it. -/
def Repeats (image : α → β) (before : List α) (item : α) : Prop :=
  image item ∈ before.map image

theorem isLeast_positions (hbefore : positions atOdds before = ∅) (hitem : atOdds before item) :
    IsLeast (positions atOdds (before ++ item :: after)) before.length := by
  constructor
  · exact ⟨item, by simp, by simpa using hitem⟩
  · rintro j ⟨other, hother, hodds⟩
    by_contra! hlt
    rw [List.getElem?_append_left hlt] at hother
    rw [List.take_append_of_le_length hlt.le] at hodds
    have hmem : j ∈ positions atOdds before := ⟨other, hother, hodds⟩
    simp [hbefore] at hmem

theorem not_repeats_of_nodup {image : α → β} (h : (items.map image).Nodup) {j : Nat}
    (hj : items[j]? = some item) : ¬Repeats image (items.take j) item := by
  intro hrepeats
  obtain ⟨hlt, rfl⟩ := List.getElem?_eq_some_iff.mp hj
  rw [← List.take_append_drop j items, List.drop_eq_getElem_cons hlt, List.map_append,
    List.map_cons, List.nodup_append] at h
  exact h.2.2 _ hrepeats _ List.mem_cons_self rfl

theorem positions_repeats_of_nodup {image : α → β} (h : (items.map image).Nodup) :
    positions (Repeats image) items = ∅ := by
  rw [Set.eq_empty_iff_forall_notMem]
  rintro j ⟨item, hitem, hrepeats⟩
  exact not_repeats_of_nodup h hitem hrepeats

end

namespace ClassSpec

variable {spec : ClassSpec} {settings : Settings} {className : String} {fault : Fault}
  {names seen : List String}

-- ---------------------------------------------------------------------------
-- Declared names
-- ---------------------------------------------------------------------------

/-- A name is not an identifier, or it stands before. -/
def Offends (before : List String) (name : String) : Prop :=
  Text.isIdentifier name.toList = false ∨ name ∈ before

def blame (className name : String) : Fault :=
  if Text.isIdentifier name.toList then .declaredTwice name className
  else .propertyName name className

theorem exists_of_checkDeclared (h : checkDeclared className seen names = .error fault) :
    ∃ before name after, names = before ++ name :: after ∧
      checkDeclared className seen before = .ok () ∧ Offends (before ++ seen) name ∧
        fault = blame className name := by
  induction names generalizing seen with
  | nil => cases h
  | cons name names ih =>
    rw [checkDeclared] at h
    by_cases hname : Text.isIdentifier name.toList = true
    · by_cases hseen : name ∈ seen
      · simp only [hname, hseen, List.contains_iff_mem, Bool.not_true, Bool.false_eq_true, if_false,
          if_true, Except.error.injEq] at h
        exact ⟨[], name, names, rfl, rfl, .inr hseen, by simp [blame, hname, ← h]⟩
      · simp only [hname, hseen, List.contains_iff_mem, Bool.not_true, Bool.false_eq_true,
          if_false] at h
        obtain ⟨before, other, after, hsplit, hbefore, hother, hfault⟩ := ih h
        refine ⟨name :: before, other, after, by rw [hsplit, List.cons_append], ?_, ?_, hfault⟩
        · simpa [checkDeclared, hname, hseen] using hbefore
        · simpa [Offends, or_left_comm] using hother
    · simp only [hname, Bool.not_false, if_true, Except.error.injEq] at h
      have hnot : Text.isIdentifier name.toList = false := by simpa using hname
      exact ⟨[], name, names, rfl, rfl, .inl hnot, by simp [blame, hnot, ← h]⟩

theorem positions_offends_of_checkDeclared (h : checkDeclared className [] names = .ok ()) :
    positions Offends names = ∅ := by
  obtain ⟨hnames, hnodup⟩ := checkDeclared_eq_ok_iff.mp h
  rw [Set.eq_empty_iff_forall_notMem]
  rintro j ⟨name, hname, hnot | hmem⟩
  · have hidentifier := (hnames name (List.mem_of_getElem? hname)).1
    simp [hidentifier] at hnot
  · have hrepeats : Repeats id (names.take j) name := by simpa [Repeats] using hmem
    exact not_repeats_of_nodup (by simpa using hnodup) hname hrepeats

/-- The first name that offends is blamed. -/
theorem exists_least_of_checkDeclared (h : checkDeclared className [] names = .error fault) :
    ∃ j name, IsLeast (positions Offends names) j ∧ names[j]? = some name ∧
      fault = blame className name := by
  obtain ⟨before, name, after, rfl, hbefore, hname, hfault⟩ := exists_of_checkDeclared h
  rw [List.append_nil] at hname
  refine ⟨before.length, name, ?_, by simp, hfault⟩
  exact isLeast_positions (positions_offends_of_checkDeclared hbefore) hname

-- ---------------------------------------------------------------------------
-- Exposed names
-- ---------------------------------------------------------------------------

theorem checkExposed_eq_ok_iff {seen pairs : Entries String} :
    checkExposed className seen pairs = .ok () ↔
      (∀ pair ∈ pairs, seen.get? pair.1 = none) ∧ pairs.names.Nodup := by
  induction pairs generalizing seen with
  | nil => simp [checkExposed, Entries.names]
  | cons pair pairs ih =>
    obtain ⟨exposed, name⟩ := pair
    rw [checkExposed]
    cases hseen : seen.get? exposed with
    | some first => simp [hseen]
    | none =>
      dsimp only
      rw [ih]
      simp only [Entries.get?_cons, Entries.names, List.map_cons, List.nodup_cons, List.mem_map]
      grind

theorem exists_of_checkExposed {seen pairs : Entries String}
    (h : checkExposed className seen pairs = .error fault) :
    ∃ before exposed name after first, pairs = before ++ (exposed, name) :: after ∧
      checkExposed className seen before = .ok () ∧
        Entries.get? (before.reverse ++ seen) exposed = some first ∧
          fault = .exposedTwice first name className exposed := by
  induction pairs generalizing seen with
  | nil => cases h
  | cons pair pairs ih =>
    obtain ⟨exposed, name⟩ := pair
    rw [checkExposed] at h
    cases hseen : seen.get? exposed with
    | some first =>
      simp only [hseen, Except.error.injEq] at h
      exact ⟨[], exposed, name, pairs, first, rfl, rfl, hseen, h.symm⟩
    | none =>
      simp only [hseen] at h
      obtain ⟨before, shared, second, after, first, hsplit, hbefore, hfirst, hfault⟩ := ih h
      refine ⟨(exposed, name) :: before, shared, second, after, first, ?_, ?_, ?_, hfault⟩
      · rw [hsplit, List.cons_append]
      · simpa [checkExposed, hseen] using hbefore
      · simpa using hfirst

/-- The names at two positions have one exposed name. The second is the first to share it with an
earlier one, and of the earlier ones only the first has it. -/
structure Clash (settings : Settings) (names : List String) (i j : Nat) (first second : String) :
    Prop where
  least : IsLeast (positions (Repeats settings.exposedName) names) j
  lt : i < j
  atFirst : names[i]? = some first
  atSecond : names[j]? = some second
  unique : ∀ k < j, ∀ name, names[k]? = some name →
    (settings.exposedName name = settings.exposedName second ↔ k = i)

theorem clash_of_split {front rest : List String} {i : Nat} {first second : String}
    (hnodup : (front.map settings.exposedName).Nodup) (hfirst : front[i]? = some first)
    (hshared : settings.exposedName first = settings.exposedName second) :
    Clash settings (front ++ second :: rest) i front.length first second := by
  obtain ⟨hlt, rfl⟩ := List.getElem?_eq_some_iff.mp hfirst
  refine ⟨?_, hlt, ?_, by simp, ?_⟩
  · refine isLeast_positions (positions_repeats_of_nodup hnodup) ?_
    rw [Repeats, ← hshared]
    exact List.mem_map_of_mem (List.getElem_mem hlt)
  · rw [List.getElem?_append_left hlt, hfirst]
  · intro k hk name hname
    rw [List.getElem?_append_left hk] at hname
    obtain ⟨-, rfl⟩ := List.getElem?_eq_some_iff.mp hname
    have hkexposed : k < (front.map settings.exposedName).length := by simpa using hk
    have hiexposed : i < (front.map settings.exposedName).length := by simpa using hlt
    have hinj : (front.map settings.exposedName)[k] = (front.map settings.exposedName)[i] ↔ k = i :=
      hnodup.getElem_inj_iff
    simpa [← hshared] using hinj

/-- The first two names that share an exposed name are blamed. -/
theorem exists_clash_of_checkExposed
    (h : checkExposed className [] (names.map fun name => (settings.exposedName name, name)) =
      .error fault) :
    ∃ i j first second, Clash settings names i j first second ∧
      fault = .exposedTwice first second className (settings.exposedName second) := by
  obtain ⟨before, exposed, name, after, first, hsplit, hbefore, hfirst, hfault⟩ :=
    exists_of_checkExposed h
  obtain ⟨front, rest, rfl, rfl, hrest⟩ := List.map_eq_append_iff.mp hsplit
  obtain ⟨second, rest, rfl, hsecond, -⟩ := List.map_eq_cons_iff.mp hrest
  obtain ⟨rfl, rfl⟩ := Prod.mk.inj hsecond
  have hnodup : (Entries.names (front.map fun name => (settings.exposedName name, name))).Nodup :=
    (checkExposed_eq_ok_iff.mp hbefore).2
  -- Names before the clash are distinct, so the order in which they were kept does not count.
  rw [List.append_nil, ← Entries.get?_of_perm (List.reverse_perm _).symm hnodup] at hfirst
  obtain ⟨left, right, hpair, -⟩ := List.lookup_eq_some_iff.mp hfirst
  have hentry : front[left.length]?.map (fun name => (settings.exposedName name, name)) =
      some (settings.exposedName second, first) := by
    rw [← List.getElem?_map, hpair]
    simp
  obtain ⟨_, hname, heq⟩ := Option.map_eq_some_iff.mp hentry
  obtain ⟨hshared, rfl⟩ := Prod.mk.inj heq
  have hexposed : (front.map settings.exposedName).Nodup := by
    simpa [Entries.names, Function.comp_def] using hnodup
  exact ⟨_, _, _, _, clash_of_split hexposed hname hshared, hfault⟩

-- ---------------------------------------------------------------------------
-- Descriptions
-- ---------------------------------------------------------------------------

/-- A description whose names are identifiers, and whose exposed names are distinct. -/
structure Usable (spec : ClassSpec) (settings : Settings) : Prop where
  name : Text.isIdentifier spec.name.toList = true
  properties : ∀ name ∈ spec.declaredNames, Text.isIdentifier name.toList = true
  exposed : (spec.declaredNames.map settings.exposedName).Nodup

theorem validate_of_isIdentifier (h : Text.isIdentifier spec.name.toList = true) :
    spec.validate = checkDeclared spec.name [] spec.declaredNames := by
  have hne : spec.name ≠ "" := by
    rintro hempty
    rw [hempty] at h
    exact absurd h (by decide)
  simp [validate, h, hne]

theorem validate_eq_ok_iff :
    spec.validate = .ok () ↔ Text.isIdentifier spec.name.toList = true ∧
      (∀ name ∈ spec.declaredNames, Text.isIdentifier name.toList = true) ∧
        spec.declaredNames.Nodup := by
  by_cases h : Text.isIdentifier spec.name.toList = true
  · simp [validate_of_isIdentifier h, h, checkDeclared_eq_ok_iff]
  · have hfault : spec.validate ≠ .ok () := by
      unfold validate
      split <;> simp [h]
    simp [hfault, h]

theorem validateFor_of_validate (h : spec.validate = .ok ()) :
    spec.validateFor settings =
      checkExposed spec.name []
        (spec.declaredNames.map fun name => (settings.exposedName name, name)) := by
  simp [validateFor, h]

theorem validateFor_eq_ok_iff_usable :
    spec.validateFor settings = .ok () ↔ spec.Usable settings := by
  constructor
  · intro h
    have hvalid := validate_of_validateFor h
    obtain ⟨hname, hproperties, -⟩ := validate_eq_ok_iff.mp hvalid
    rw [validateFor_of_validate hvalid, checkExposed_eq_ok_iff] at h
    exact ⟨hname, hproperties, by simpa [Entries.names, Function.comp_def] using h.2⟩
  · rintro ⟨hname, hproperties, hexposed⟩
    have hvalid := validate_eq_ok_iff.mpr ⟨hname, hproperties, hexposed.of_map⟩
    rw [validateFor_of_validate hvalid, checkExposed_eq_ok_iff]
    exact ⟨by simp, by simpa [Entries.names, Function.comp_def] using hexposed⟩

theorem validateFor_of_declared (h : settings.camelCase = false) :
    spec.validateFor settings = spec.validate := by
  cases hvalid : spec.validate with
  | error fault => simp [validateFor, hvalid]
  | ok _ =>
    obtain ⟨hname, hproperties, hnodup⟩ := validate_eq_ok_iff.mp hvalid
    have hexposed : settings.exposedName = id := funext fun name => by simp [Settings.exposedName, h]
    exact validateFor_eq_ok_iff_usable.mpr ⟨hname, hproperties, by simpa [hexposed] using hnodup⟩

/-- A description is accepted just when it is usable, which is when it has a context. A refusal of
the declared names blames the first that offends, and one of the exposed names the first that is
shared, together with the one name before it that shares it. -/
theorem validateFor_blames_first (spec : ClassSpec) (settings : Settings) :
    (spec.validateFor settings = .ok () ↔ spec.Usable settings) ∧
    (settings.camelCase = false → spec.validateFor settings = spec.validate) ∧
    (Text.isIdentifier spec.name.toList = true → ∀ fault, spec.validate = .error fault →
      ∃ j name, IsLeast (positions Offends spec.declaredNames) j ∧
        spec.declaredNames[j]? = some name ∧ fault = blame spec.name name) ∧
    (spec.validate = .ok () → ∀ fault, spec.validateFor settings = .error fault →
      ∃ i j first second, Clash settings spec.declaredNames i j first second ∧
        fault = .exposedTwice first second spec.name (settings.exposedName second)) ∧
    ((∃ context, spec.toContext settings = .ok context) ↔ spec.validateFor settings = .ok ()) := by
  refine ⟨validateFor_eq_ok_iff_usable, validateFor_of_declared, ?_, ?_, ?_⟩
  · intro hname fault hfault
    rw [validate_of_isIdentifier hname] at hfault
    exact exists_least_of_checkDeclared hfault
  · intro hvalid fault hfault
    rw [validateFor_of_validate hvalid] at hfault
    exact exists_clash_of_checkExposed hfault
  · simp [toContext_eq_ok_iff]

theorem validateFor_blames_first_user :
    let property (name : String) : Property := ⟨name, .string, false, none, none⟩
    let spec : ClassSpec :=
      ⟨"Account", none, none, [], [property "age", property "user_id", property "User_id",
        property "userId"], [], []⟩
    spec.validate = .ok () ∧
      spec.validateFor .default = .error (.exposedTwice "user_id" "User_id" "Account" "userId") ∧
        ∃ i j first second, Clash .default spec.declaredNames i j first second ∧
          Settings.default.exposedName second = "userId" := by
  intro property spec
  have hvalid : spec.validate = .ok () := by decide
  have hfault : spec.validateFor .default =
      .error (.exposedTwice "user_id" "User_id" "Account" "userId") := by decide +kernel
  obtain ⟨-, -, -, hclash, -⟩ := validateFor_blames_first spec .default
  obtain ⟨i, j, first, second, hclash, heq⟩ := hclash hvalid _ hfault
  injection heq with _ _ _ hshared
  exact ⟨hvalid, hfault, i, j, first, second, hclash, hshared.symm⟩

end ClassSpec

end Stencil
