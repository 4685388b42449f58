import Stencil.Proofs.Grammar

/-!
# Texts of paths

The texts that are paths, as a regular language. A text is read as a path just when it is in the
language once the blanks around it are taken off. What is left is then the text of the path, so a
path and its text determine each other.
-/

namespace Stencil

open scoped Computability

namespace Text

/-- What is left of a text when the blanks it begins and ends with are taken off. -/
structure Stripped (source text : List Char) : Prop where
  padded : Padded text source
  first : ∀ c ∈ text.head?, isBlank c = false
  last : ∀ c ∈ text.getLast?, isBlank c = false

def single (p : Char → Prop) : Language Char :=
  {text | ∃ c, p c ∧ text = [c]}

def names : Language Char :=
  single (fun c => IsLetter c ∨ c = '_') * (single fun c => IsLetter c ∨ IsDigit c ∨ c = '_')∗

def numbers : Language Char :=
  single IsDigit * (single IsDigit)∗

/-- A name, then names and numbers with a dot before each. -/
def paths : Language Char :=
  names * (single (· = '.') * (names + numbers))∗

variable {text : List Char} {p : Char → Prop}

-- ---------------------------------------------------------------------------
-- Trimming
-- ---------------------------------------------------------------------------

theorem isBlank_of_mem_head?_dropWhile (text : List Char) {c : Char}
    (h : c ∈ (text.dropWhile isBlank).head?) : isBlank c = false := by
  have hhead := List.head?_dropWhile_not isBlank text
  rw [h] at hhead
  exact hhead

theorem stripped_trim (source : List Char) : Stripped source (trim source) := by
  refine ⟨padded_trim source, fun c hc => ?_, fun c hc => ?_⟩
  · obtain ⟨rest, hrest⟩ : trim source <+: source.dropWhile isBlank :=
      List.rdropWhile_prefix isBlank _
    refine isBlank_of_mem_head?_dropWhile source ?_
    rw [← hrest, List.head?_append, hc]
    rfl
  · rw [trim, trimEnd, List.getLast?_reverse] at hc
    exact isBlank_of_mem_head?_dropWhile _ hc

-- ---------------------------------------------------------------------------
-- Languages of names and numbers
-- ---------------------------------------------------------------------------

theorem mem_single_mul {language : Language Char} :
    text ∈ single p * language ↔ ∃ c rest, text = c :: rest ∧ p c ∧ rest ∈ language := by
  rw [Language.mem_mul]
  constructor
  · rintro ⟨_, ⟨c, hc, rfl⟩, rest, hrest, rfl⟩
    exact ⟨c, rest, rfl, hc, hrest⟩
  · rintro ⟨c, rest, rfl, hc, hrest⟩
    exact ⟨[c], ⟨c, hc, rfl⟩, rest, hrest, rfl⟩

theorem mem_kstar_single : text ∈ (single p)∗ ↔ ∀ c ∈ text, p c := by
  rw [Language.mem_kstar]
  constructor
  · rintro ⟨parts, rfl, hparts⟩ c hc
    obtain ⟨part, hpart, hc⟩ := List.mem_flatten.mp hc
    obtain ⟨d, hd, rfl⟩ := hparts part hpart
    rwa [List.mem_singleton.mp hc]
  · intro h
    refine ⟨text.map fun c => [c], ?_, ?_⟩
    · rw [← List.flatMap_def, List.flatMap_singleton']
    · exact List.forall_mem_map.mpr fun c hc => ⟨c, h c hc, rfl⟩

theorem mem_names_iff : text ∈ names ↔ IsName text := by
  rw [names, mem_single_mul]
  constructor
  · rintro ⟨first, others, rfl, hfirst, hothers⟩
    exact .intro hfirst (mem_kstar_single.mp hothers)
  · rintro ⟨hfirst, hothers⟩
    exact ⟨_, _, rfl, hfirst, mem_kstar_single.mpr hothers⟩

theorem mem_numbers_iff : text ∈ numbers ↔ IsNumber text := by
  rw [numbers, mem_single_mul]
  constructor
  · rintro ⟨first, others, rfl, hfirst, hothers⟩
    exact ⟨List.cons_ne_nil first others,
      List.forall_mem_cons.mpr ⟨hfirst, mem_kstar_single.mp hothers⟩⟩
  · rintro ⟨hne, hall⟩
    obtain ⟨first, others, rfl⟩ := List.exists_cons_of_ne_nil hne
    obtain ⟨hfirst, hothers⟩ := List.forall_mem_cons.mp hall
    exact ⟨first, others, rfl, hfirst, mem_kstar_single.mpr hothers⟩

end Text

namespace Path

theorem isSegment_iff {segment : List Char} :
    IsSegment segment ↔ segment ∈ Text.names + Text.numbers := by
  rw [Language.mem_add, Text.mem_names_iff, Text.mem_numbers_iff]
  exact or_congr Text.isIdentifier_iff Text.isIndex_iff

theorem mem_kstar_dotted {text : List Char} :
    text ∈ (Text.single (· = '.') * (Text.names + Text.numbers))∗ ↔
      ∃ rest : List String, text = rest.flatMap ('.' :: ·.toList) ∧
        ∀ segment ∈ rest, IsSegment segment.toList := by
  rw [Language.mem_kstar]
  constructor
  · rintro ⟨parts, rfl, hparts⟩
    induction parts with
    | nil => exact ⟨[], rfl, List.forall_mem_nil _⟩
    | cons part parts ih =>
      obtain ⟨hpart, hothers⟩ := List.forall_mem_cons.mp hparts
      obtain ⟨_, segment, rfl, rfl, hsegment⟩ := Text.mem_single_mul.mp hpart
      obtain ⟨rest, htext, hrest⟩ := ih hothers
      refine ⟨String.ofList segment :: rest, by simp [htext], ?_⟩
      exact List.forall_mem_cons.mpr ⟨by simpa using isSegment_iff.mpr hsegment, hrest⟩
  · rintro ⟨rest, rfl, hrest⟩
    refine ⟨rest.map ('.' :: ·.toList), by simp [List.flatMap], ?_⟩
    refine List.forall_mem_map.mpr fun segment hsegment => Text.mem_single_mul.mpr ?_
    exact ⟨'.', segment.toList, rfl, rfl, isSegment_iff.mp (hrest segment hsegment)⟩

theorem mem_paths_iff {text : List Char} :
    text ∈ Text.paths ↔ ∃ path : Path, path.Readable ∧ path.text = text := by
  rw [Text.paths, Language.mem_mul]
  constructor
  · rintro ⟨head, hhead, dotted, hdotted, rfl⟩
    obtain ⟨rest, rfl, hrest⟩ := mem_kstar_dotted.mp hdotted
    refine ⟨⟨String.ofList head, rest⟩, readable_iff.mpr ⟨?_, hrest⟩, ?_⟩
    · simpa [Text.isIdentifier_iff] using Text.mem_names_iff.mp hhead
    · simp [Path.text, Text.join, List.flatMap_map]
  · rintro ⟨path, hpath, rfl⟩
    obtain ⟨hhead, hrest⟩ := readable_iff.mp hpath
    refine ⟨path.head.toList, Text.mem_names_iff.mpr (Text.isIdentifier_iff.mp hhead), _,
      mem_kstar_dotted.mpr ⟨path.rest, rfl, hrest⟩, ?_⟩
    simp [Path.text, Text.join, List.flatMap_map]

theorem toList_toString (path : Path) : (toString path).toList = path.text :=
  String.toList_ofList

/-- The segments of a path are the fields of its text between dots. -/
theorem map_toList_segments {path : Path} (h : path.Readable) :
    path.segments.map String.toList = Text.fields (· == '.') path.text := by
  obtain ⟨hhead, hrest⟩ := readable_iff.mp h
  have hplain : ∀ {segment : List Char}, IsSegment segment → '.' ∉ segment := by
    intro segment hsegment hdot
    exact absurd (isNamePart_of_isSegment hsegment '.' hdot) (by decide)
  rw [Text.fields, text, Text.split_join (hplain (.inl hhead))]
  · rfl
  · exact List.forall_mem_map.mpr fun segment hs => hplain (hrest segment hs)

theorem readable_iff_mem_paths {source : List Char} :
    (∃ path, parse source = .ok path) ↔ Text.trim source ∈ Text.paths := by
  rw [mem_paths_iff]
  constructor
  · rintro ⟨path, h⟩
    exact ⟨path, ⟨source, h⟩, (parse_eq_ok_iff.mp h).1⟩
  · rintro ⟨path, hpath, htext⟩
    exact ⟨path, parse_eq_ok_iff.mpr ⟨htext, readable_iff.mp hpath⟩⟩

/-- A text is read as a path just when it is one, blanks around it left out. The path then has this
text, cut at its dots into segments; the text is read as the same path again, and no other path
that can be read has it. -/
theorem parse_round_trip (source : List Char) :
    Text.Stripped source (Text.trim source) ∧
    ((∃ path, parse source = .ok path) ↔ Text.trim source ∈ Text.paths) ∧
    ∀ path, parse source = .ok path →
      (toString path).toList = Text.trim source ∧
      path.segments ≠ [] ∧ path.segments = path.head :: path.rest ∧
      path.segments.map String.toList = Text.fields (· == '.') (Text.trim source) ∧
      parse (toString path).toList = .ok path ∧
      ∀ other : Path, other.Readable → other ≠ path → toString other ≠ toString path := by
  refine ⟨Text.stripped_trim source, readable_iff_mem_paths, fun path h => ?_⟩
  have hpath : path.Readable := ⟨source, h⟩
  have htext : path.text = Text.trim source := (parse_eq_ok_iff.mp h).1
  rw [toList_toString, ← htext]
  refine ⟨rfl, List.cons_ne_nil _ _, rfl, map_toList_segments hpath, hpath.parse_text, ?_⟩
  intro other hother hne hsame
  refine hne (hother.eq_of_text hpath ?_)
  rw [← toList_toString, hsame, toList_toString]

theorem parse_round_trip_number :
    let source := "\u3000items.0._x1\u00a0\n".toList
    let path : Path := ⟨"items", ["0", "_x1"]⟩
    parse source = .ok path ∧ "items.0._x1".toList ∈ Text.paths ∧
      parse (toString path).toList = .ok path ∧
      toString path ≠ toString (⟨"items", ["00", "_x1"]⟩ : Path) ∧
      "0.items".toList ∉ Text.paths := by
  intro source path
  have hparse : parse source = .ok path := rfl
  have htrim : Text.trim source = "items.0._x1".toList := rfl
  have hother : parse "items.00._x1".toList = .ok ⟨"items", ["00", "_x1"]⟩ := rfl
  have hfault : parse "0.items".toList = .error (.badHead "0") := rfl
  obtain ⟨-, hlanguage, hback⟩ := parse_round_trip source
  obtain ⟨-, -, -, -, hagain, hdistinct⟩ := hback path hparse
  refine ⟨hparse, htrim ▸ hlanguage.mp ⟨path, hparse⟩, hagain, ?_, fun hmem => ?_⟩
  · exact (hdistinct _ ⟨_, hother⟩ (by decide)).symm
  · obtain ⟨found, hfound⟩ := (parse_round_trip "0.items".toList).2.1.mpr hmem
    rw [hfault] at hfound
    cases hfound

end Path

end Stencil
