import Stencil.Proofs.ExposedNames

/-!
# Camel case

What camel case makes of a name, character by character. Underscores are all that is taken out, and
whether a letter is a capital is decided by the one character that stands before it. So two names
become the same just when they are the same without underscores and capitals, and have their humps
in the same places.
-/

namespace Stencil.Text

-- ---------------------------------------------------------------------------
-- Neighbours
-- ---------------------------------------------------------------------------

/-- The characters of a text other than underscores, each with the character directly before it;
`previous` stands directly before the text. -/
def withPrevious (previous : Option Char) (text : List Char) : List (Option Char × Char) :=
  ((previous :: text.map some).zip text).filter fun pair => pair.2 != '_'

/-- A character in camel case: a letter directly after an underscore is a capital, no other letter
is, and nothing else changes. -/
def inCamelCase (previous : Option Char) (c : Char) : Char :=
  if c.isAlpha then (if previous = some '_' then c.toUpper else c.toLower) else c

/-- Whether a letter directly after an underscore has the place `i` once the underscores are taken
out. -/
def HasHump (text : List Char) (i : Nat) : Prop :=
  ∃ pair ∈ (withPrevious none text)[i]?, pair.1 = some '_' ∧ pair.2.isAlpha = true

instance (text : List Char) (i : Nat) : Decidable (HasHump text i) :=
  inferInstanceAs (Decidable (∃ pair ∈ (withPrevious none text)[i]?, _ ∧ _))

variable {previous : Option Char} {c : Char} {a b text : List Char}

theorem withPrevious_cons (previous : Option Char) (c : Char) (text : List Char) :
    withPrevious previous (c :: text) =
      if c = '_' then withPrevious (some '_') text
      else (previous, c) :: withPrevious (some c) text := by
  by_cases hc : c = '_' <;> simp [withPrevious, hc]

theorem map_snd_withPrevious (previous : Option Char) (text : List Char) :
    (withPrevious previous text).map Prod.snd = text.filter (· != '_') := by
  have hzip : ((previous :: text.map some).zip text).map Prod.snd = text :=
    List.map_snd_zip (by simp)
  conv_rhs => rw [← hzip, List.filter_map]
  rfl

theorem toNat_lt_of_mem_withPrevious (h : ∀ d ∈ text, d.toNat < 0x80) :
    ∀ pair ∈ withPrevious previous text, pair.2.toNat < 0x80 := by
  intro pair hpair
  have hmem : pair.2 ∈ text.filter (· != '_') :=
    map_snd_withPrevious previous text ▸ List.mem_map_of_mem hpair
  exact h pair.2 (List.mem_of_mem_filter hmem)

-- ---------------------------------------------------------------------------
-- Characters in camel case
-- ---------------------------------------------------------------------------

theorem inCase_eq_inCamelCase (hc : c.toNat < 0x80) (previous : Option Char) :
    inCase (previous == some '_') c = inCamelCase previous c := by
  have hother : c.isAlpha = false → c.toUpper = c ∧ c.toLower = c :=
    forall_ascii (p := fun c => c.isAlpha = false → c.toUpper = c ∧ c.toLower = c)
      (by decide +kernel) hc
  unfold inCase inCamelCase
  cases hletter : c.isAlpha with
  | true => simp
  | false => simp [hother hletter]

theorem toLower_inCamelCase (hc : c.toNat < 0x80) (previous : Option Char) :
    (inCamelCase previous c).toLower = c.toLower := by
  rw [← inCase_eq_inCamelCase hc]
  exact forall_ascii (p := fun c => ∀ b, (inCase b c).toLower = c.toLower) (by decide +kernel) hc _

theorem isUpper_inCamelCase (hc : c.toNat < 0x80) (previous : Option Char) :
    (inCamelCase previous c).isUpper = (c.isAlpha && previous == some '_') := by
  rw [← inCase_eq_inCamelCase hc]
  exact forall_ascii (p := fun c => ∀ b, (inCase b c).isUpper = (c.isAlpha && b))
    (by decide +kernel) hc _

theorem inCase_isUpper_toLower (hc : c.toNat < 0x80) : inCase c.isUpper c.toLower = c :=
  forall_ascii (p := fun c => inCase c.isUpper c.toLower = c) (by decide +kernel) hc

/-- A text is known from what it is in lowercase and from where its capitals are. -/
theorem eq_iff_toLower_isUpper (ha : ∀ c ∈ a, c.toNat < 0x80) (hb : ∀ c ∈ b, c.toNat < 0x80) :
    a = b ↔ a.map Char.toLower = b.map Char.toLower ∧
      ∀ i : Nat, (a.map Char.isUpper)[i]? = some true ↔ (b.map Char.isUpper)[i]? = some true := by
  refine ⟨fun h => by simp [h], fun ⟨hlower, hupper⟩ => ?_⟩
  have hlength : a.length = b.length := by simpa using congrArg List.length hlower
  refine List.ext_getElem hlength fun i hi hi' => ?_
  have hlower' : a[i].toLower = b[i].toLower := by
    have hplace := congrArg (·[i]?) hlower
    simpa [hi, hi'] using hplace
  have hupper' : a[i].isUpper = b[i].isUpper := by
    have hplace := hupper i
    exact Bool.eq_iff_iff.mpr (by simpa [hi, hi'] using hplace)
  calc a[i]
    _ = inCase a[i].isUpper a[i].toLower :=
      (inCase_isUpper_toLower (ha _ (List.getElem_mem hi))).symm
    _ = inCase b[i].isUpper b[i].toLower := by rw [hupper', hlower']
    _ = b[i] := inCase_isUpper_toLower (hb _ (List.getElem_mem hi'))

-- ---------------------------------------------------------------------------
-- Names in camel case
-- ---------------------------------------------------------------------------

theorem withHumps_eq_map (h : ∀ d ∈ text, d.toNat < 0x80) (previous : Option Char) :
    withHumps (previous == some '_') text =
      (withPrevious previous text).map fun pair => inCamelCase pair.1 pair.2 := by
  induction text generalizing previous with
  | nil => rfl
  | cons c text ih =>
    obtain ⟨hc, htext⟩ := List.forall_mem_cons.mp h
    rw [withHumps, withPrevious_cons]
    split
    · exact ih htext (some '_')
    · next hne =>
      have hplain : (some c == some '_') = false := by simpa using hne
      rw [List.map_cons, inCase_eq_inCamelCase hc, ← ih htext (some c), hplain]

theorem joinUnderscored_eq_map (h : ∀ d ∈ text, d.toNat < 0x80) :
    joinUnderscored text =
      (withPrevious none text).map fun pair => inCamelCase pair.1 pair.2 := by
  rw [joinUnderscored_of_ascii h]
  exact withHumps_eq_map h none

theorem toLower_joinUnderscored (h : ∀ d ∈ text, d.toNat < 0x80) :
    (joinUnderscored text).map Char.toLower = (text.filter (· != '_')).map Char.toLower := by
  rw [joinUnderscored_eq_map h, ← map_snd_withPrevious none text, List.map_map, List.map_map]
  refine List.map_congr_left fun pair hpair => ?_
  exact toLower_inCamelCase (toNat_lt_of_mem_withPrevious h pair hpair) pair.1

theorem isUpper_joinUnderscored (h : ∀ d ∈ text, d.toNat < 0x80) (i : Nat) :
    ((joinUnderscored text).map Char.isUpper)[i]? = some true ↔ HasHump text i := by
  rw [joinUnderscored_eq_map h, List.map_map, List.getElem?_map, HasHump]
  cases hpair : (withPrevious none text)[i]? with
  | none => simp
  | some pair =>
    obtain ⟨previous, c⟩ := pair
    have hc : c.toNat < 0x80 := toNat_lt_of_mem_withPrevious h _ (List.mem_of_getElem? hpair)
    simp [isUpper_inCamelCase hc, and_comm]

theorem toNat_lt_of_mem_joinUnderscored (h : ∀ d ∈ text, d.toNat < 0x80) :
    ∀ d ∈ joinUnderscored text, d.toNat < 0x80 := by
  rw [joinUnderscored_eq_map h]
  refine List.forall_mem_map.mpr fun pair hpair => ?_
  rw [← inCase_eq_inCamelCase (toNat_lt_of_mem_withPrevious h pair hpair)]
  exact toNat_inCase_lt _ (toNat_lt_of_mem_withPrevious h pair hpair)

/-- Camel case takes out the underscores and changes nothing else but the case of letters, which it
decides by the character directly before each letter. So it makes the same of two texts just when
they are the same in lowercase without underscores, and there the same places hold a letter that
was directly after an underscore. -/
theorem joinUnderscored_by_character (h : ∀ d ∈ a, d.toNat < 0x80) :
    (joinUnderscored a).map Char.toLower = (a.filter (· != '_')).map Char.toLower ∧
    joinUnderscored a =
      ((withPrevious none a).map fun pair => inCamelCase pair.1 pair.2) ∧
    ∀ b : List Char, (∀ d ∈ b, d.toNat < 0x80) →
      (joinUnderscored a = joinUnderscored b ↔
        (a.filter (· != '_')).map Char.toLower = (b.filter (· != '_')).map Char.toLower ∧
          ∀ i, HasHump a i ↔ HasHump b i) := by
  refine ⟨toLower_joinUnderscored h, joinUnderscored_eq_map h, fun b hb => ?_⟩
  rw [eq_iff_toLower_isUpper (toNat_lt_of_mem_joinUnderscored h)
    (toNat_lt_of_mem_joinUnderscored hb), toLower_joinUnderscored h, toLower_joinUnderscored hb]
  simp only [isUpper_joinUnderscored h, isUpper_joinUnderscored hb]

theorem joinUnderscored_by_character_digits :
    let name := "_id_of__2nd".toList
    (∀ d ∈ name, d.toNat < 0x80) ∧ joinUnderscored name = "IdOf2nd".toList ∧
      (∀ i, HasHump name i ↔ HasHump "_ID_oF2ND_".toList i) ∧
      joinUnderscored name ≠ joinUnderscored "_id_of_2_nd".toList := by
  intro name
  have hname : ∀ d ∈ name, d.toNat < 0x80 := by simp [name]
  obtain ⟨-, hjoined, hsame⟩ := joinUnderscored_by_character hname
  refine ⟨hname, hjoined.trans (by decide +kernel), ?_, fun heq => ?_⟩
  · exact ((hsame "_ID_oF2ND_".toList (by simp)).mp (by decide +kernel)).2
  · have hhumps := ((hsame "_id_of_2_nd".toList (by simp)).mp heq).2 5
    exact absurd (hhumps.mpr (by decide +kernel)) (by decide +kernel)

end Stencil.Text
