import Stencil.Path
import Stencil.Proofs.Outcome

/-!
# Words, fields and paths

Taking a text apart undoes putting it together, as long as the parts hold nothing of what stands
between them. For paths this is exact: a text reads as a path just when it is the text of that path
with blanks around it.
-/

namespace Stencil

namespace Text

-- ---------------------------------------------------------------------------
-- Characters of names
-- ---------------------------------------------------------------------------

theorem ne_of_class {p : Char → Bool} {c d : Char} (hc : p c = true) (hd : p d = false) :
    c ≠ d := by
  rintro rfl
  simp [hc] at hd

theorem isNamePart_of_isNameStart {c : Char} (h : isNameStart c = true) : isNamePart c = true := by
  simp only [isNameStart, isNamePart, Char.isAlphanum, Bool.or_eq_true] at h ⊢
  rcases h with h | h
  · exact .inl (.inl h)
  · exact .inr h

theorem isNamePart_of_isIdentifier {text : List Char} (h : isIdentifier text = true) :
    ∀ c ∈ text, isNamePart c = true := by
  cases text with
  | nil => simp
  | cons first text =>
    simp only [isIdentifier, Bool.and_eq_true, List.all_eq_true] at h
    exact List.forall_mem_cons.mpr ⟨isNamePart_of_isNameStart h.1, h.2⟩

theorem not_mem_of_isIdentifier {text : List Char} {c : Char} (h : isIdentifier text = true)
    (hc : isNamePart c = false) : c ∉ text := by
  intro hmem
  rw [isNamePart_of_isIdentifier h c hmem] at hc
  cases hc

theorem isNamePart_of_isIndex {text : List Char} (h : isIndex text = true) :
    ∀ c ∈ text, isNamePart c = true := by
  simp only [isIndex, Bool.and_eq_true, List.all_eq_true] at h
  intro c hc
  simp [isNamePart, Char.isAlphanum, h.2 c hc]

theorem toNat_of_isNamePart {c : Char} (h : isNamePart c = true) :
    48 ≤ c.toNat ∧ c.toNat ≤ 122 := by
  simp only [isNamePart, Char.isAlphanum, Char.isAlpha, Char.isUpper, Char.isLower, Char.isDigit,
    Bool.or_eq_true, Bool.and_eq_true, decide_eq_true_eq, beq_iff_eq, UInt32.le_iff_toNat_le,
    ge_iff_le] at h
  change (((65 ≤ c.toNat ∧ c.toNat ≤ 90) ∨ (97 ≤ c.toNat ∧ c.toNat ≤ 122)) ∨
    (48 ≤ c.toNat ∧ c.toNat ≤ 57)) ∨ c = '_' at h
  rcases h with ((h | h) | h) | rfl
  · omega
  · omega
  · omega
  · decide

theorem isBlank_of_isNamePart {c : Char} (h : isNamePart c = true) : isBlank c = false := by
  have := toNat_of_isNamePart h
  simp only [isBlank]
  grind

theorem digitsValue_eq_ofDigitChars (digits : List Char) :
    digitsValue digits = Nat.ofDigitChars 10 digits 0 := by
  rw [Nat.ofDigitChars_eq_foldl, digitsValue]

-- ---------------------------------------------------------------------------
-- Fields
-- ---------------------------------------------------------------------------

section
variable {isSeparator : Char → Bool}

theorem split_of_forall {text : List Char} (h : ∀ c ∈ text, isSeparator c = false) :
    split isSeparator text = (text, []) := by
  induction text with
  | nil => rfl
  | cons c text ih =>
    obtain ⟨hc, htext⟩ := List.forall_mem_cons.mp h
    simp [split, ih htext, hc]

theorem split_append_cons {front : List Char} {separator : Char} (back : List Char)
    (hfront : ∀ c ∈ front, isSeparator c = false) (hs : isSeparator separator = true) :
    split isSeparator (front ++ separator :: back) = (front, fields isSeparator back) := by
  induction front with
  | nil => simp [split, hs, fields]
  | cons c front ih =>
    obtain ⟨hc, hrest⟩ := List.forall_mem_cons.mp hfront
    simp [split, ih hrest, hc]

end

theorem beq_eq_false_of_not_mem {separator : Char} {field : List Char} (h : separator ∉ field) :
    ∀ c ∈ field, (c == separator) = false := by
  intro c hc
  refine beq_false_of_ne ?_
  rintro rfl
  exact h hc

theorem split_join {separator : Char} {first : List Char} {others : List (List Char)}
    (hfirst : separator ∉ first) (hothers : ∀ field ∈ others, separator ∉ field) :
    split (· == separator) (join separator first others) = (first, others) := by
  induction others generalizing first with
  | nil => simpa [join] using split_of_forall (beq_eq_false_of_not_mem hfirst)
  | cons next others ih =>
    obtain ⟨hnext, hrest⟩ := List.forall_mem_cons.mp hothers
    have hback := ih hnext hrest
    have hjoin : join separator first (next :: others) =
        first ++ separator :: join separator next others := by simp [join]
    rw [hjoin, split_append_cons _ (beq_eq_false_of_not_mem hfirst) (beq_self_eq_true separator),
      fields, hback]

def IsWord (text : List Char) : Prop :=
  text ≠ [] ∧ ∀ c ∈ text, isBlank c = false

theorem isWord_of_isIdentifier {text : List Char} (h : isIdentifier text = true) : IsWord text := by
  refine ⟨?_, fun c hc => isBlank_of_isNamePart (isNamePart_of_isIdentifier h c hc)⟩
  rintro rfl
  cases h

theorem words_nil : words [] = [] := by
  simp [words, fields, split]

theorem words_blank {blank : Char} (text : List Char) (h : isBlank blank = true) :
    words (blank :: text) = words text := by
  simp [words, fields, split, h]

theorem words_append_blank {word : List Char} {blank : Char} (text : List Char) (hw : IsWord word)
    (hb : isBlank blank = true) : words (word ++ blank :: text) = word :: words text := by
  have hsplit := split_append_cons text hw.2 hb
  have hempty : word.isEmpty = false := by simpa using hw.1
  simp [words, fields, hsplit, hempty]

theorem isWord_of_mem_words {text word : List Char} (h : word ∈ words text) : IsWord word := by
  simp only [words, List.mem_filter, Bool.not_eq_true', List.isEmpty_eq_false_iff] at h
  exact ⟨h.2, not_isSeparator_of_mem_fields isBlank text word h.1⟩

theorem dropWhile_isBlank_of_forall {text : List Char} (h : ∀ c ∈ text, isBlank c = false) :
    text.dropWhile isBlank = text := by
  cases text with
  | nil => rfl
  | cons c text => simp [h c (by simp)]

theorem trim_append {front text back : List Char} (hfront : ∀ c ∈ front, isBlank c = true)
    (htext : ∀ c ∈ text, isBlank c = false) (hback : ∀ c ∈ back, isBlank c = true) :
    trim (front ++ text ++ back) = text := by
  have hstart : trimStart (front ++ text ++ back) = (text ++ back).dropWhile isBlank := by
    rw [trimStart, List.append_assoc, List.dropWhile_append_of_pos hfront]
  cases text with
  | nil =>
    have hnone : back.dropWhile isBlank = [] := List.dropWhile_eq_nil_iff.mpr hback
    rw [trim, hstart, List.nil_append, hnone]
    rfl
  | cons c text =>
    have hc : isBlank c = false := htext c (by simp)
    have hlast : (c :: text).reverse.dropWhile isBlank = (c :: text).reverse :=
      dropWhile_isBlank_of_forall fun d hd => htext d (List.mem_reverse.mp hd)
    have hstop : (c :: text ++ back).dropWhile isBlank = c :: text ++ back := by simp [hc]
    rw [trim, hstart, hstop, trimEnd, List.reverse_append,
      List.dropWhile_append_of_pos (by simpa using hback), hlast, List.reverse_reverse]

theorem trim_of_forall {text : List Char} (h : ∀ c ∈ text, isBlank c = false) :
    trim text = text := by
  simpa using trim_append (List.forall_mem_nil _) h (List.forall_mem_nil _)

end Text

-- ---------------------------------------------------------------------------
-- Paths
-- ---------------------------------------------------------------------------

namespace Path

def Readable (path : Path) : Prop :=
  ∃ source, parse source = .ok path

def IsSegment (segment : List Char) : Prop :=
  Text.isIdentifier segment = true ∨ Text.isIndex segment = true

theorem isNamePart_of_isSegment {segment : List Char} (h : IsSegment segment) :
    ∀ c ∈ segment, Text.isNamePart c = true :=
  h.elim Text.isNamePart_of_isIdentifier Text.isNamePart_of_isIndex

theorem readRest_eq_ok_iff {others : List (List Char)} {rest : List String} :
    readRest others = .ok rest ↔
      rest.map String.toList = others ∧ ∀ segment ∈ others, IsSegment segment := by
  induction others generalizing rest with
  | nil => cases rest <;> simp [readRest]
  | cons segment others ih =>
    simp only [readRest, Bool.or_eq_true, List.forall_mem_cons]
    constructor
    · intro h
      split at h
      · next hsegment =>
        obtain ⟨found, hrest, rfl⟩ := map_ok.mp h
        obtain ⟨hmap, hall⟩ := ih.mp hrest
        exact ⟨by simp [hmap], hsegment, hall⟩
      · cases h
    · rintro ⟨hmap, hsegment, hall⟩
      obtain ⟨next, found, rfl, hnext, hfound⟩ := List.map_eq_cons_iff.mp hmap
      have hmay : Text.isIdentifier segment = true ∨ Text.isIndex segment = true := hsegment
      rw [if_pos hmay, ih.mpr ⟨hfound, hall⟩, ← hnext]
      simp [Except.map]

theorem mem_text {path : Path} (hhead : Text.isIdentifier path.head.toList = true)
    (hrest : ∀ segment ∈ path.rest, IsSegment segment.toList) :
    ∀ c ∈ path.text, Text.isNamePart c = true ∨ c = '.' := by
  intro c hc
  simp only [text, Text.join, List.flatMap_map, List.mem_append, List.mem_flatMap,
    List.mem_cons] at hc
  rcases hc with hc | ⟨segment, hs, rfl | hc⟩
  · exact .inl (Text.isNamePart_of_isIdentifier hhead c hc)
  · exact .inr rfl
  · exact .inl (isNamePart_of_isSegment (hrest segment hs) c hc)

theorem isBlank_of_mem_text {path : Path} (hhead : Text.isIdentifier path.head.toList = true)
    (hrest : ∀ segment ∈ path.rest, IsSegment segment.toList) :
    ∀ c ∈ path.text, Text.isBlank c = false := by
  intro c hc
  rcases mem_text hhead hrest c hc with hpart | rfl
  · exact Text.isBlank_of_isNamePart hpart
  · decide

/-- A text reads as a path just when it is the text of that path, with blanks around it. -/
theorem parse_eq_ok_iff {source : List Char} {path : Path} :
    parse source = .ok path ↔
      path.text = Text.trim source ∧ Text.isIdentifier path.head.toList = true ∧
        ∀ segment ∈ path.rest, IsSegment segment.toList := by
  constructor
  · intro h
    simp only [parse] at h
    split at h
    · cases h
    split at h
    · next hfirst =>
      obtain ⟨rest, hrest, rfl⟩ := map_ok.mp h
      obtain ⟨hmap, hall⟩ := readRest_eq_ok_iff.mp hrest
      refine ⟨?_, by simpa using hfirst, fun segment hs => hall _ ?_⟩
      · simpa [text, hmap] using Text.join_split '.' (Text.trim source)
      · exact hmap ▸ List.mem_map_of_mem hs
    · cases h
  · rintro ⟨htext, hhead, hrest⟩
    have hplain : ∀ {segment : List Char}, IsSegment segment → '.' ∉ segment := by
      intro segment hs hdot
      exact absurd (isNamePart_of_isSegment hs '.' hdot) (by decide)
    have hsplit : Text.split (· == '.') (Text.trim source) =
        (path.head.toList, path.rest.map String.toList) := by
      rw [← htext, text, Text.split_join (hplain (.inl hhead))]
      exact List.forall_mem_map.mpr fun segment hs => hplain (hrest segment hs)
    have hne : (Text.trim source).isEmpty = false := by
      rw [← htext, text, Text.join]
      cases hl : path.head.toList with
      | nil =>
        rw [hl] at hhead
        cases hhead
      | cons c first => rfl
    have hread : readRest (path.rest.map String.toList) = .ok path.rest :=
      readRest_eq_ok_iff.mpr ⟨rfl, List.forall_mem_map.mpr hrest⟩
    simp [parse, hne, hsplit, hhead, hread, Except.map]

theorem readable_iff {path : Path} :
    path.Readable ↔ Text.isIdentifier path.head.toList = true ∧
      ∀ segment ∈ path.rest, IsSegment segment.toList := by
  constructor
  · rintro ⟨source, h⟩
    exact (parse_eq_ok_iff.mp h).2
  · intro h
    refine ⟨path.text, parse_eq_ok_iff.mpr ⟨?_, h⟩⟩
    exact (Text.trim_of_forall (isBlank_of_mem_text h.1 h.2)).symm

namespace Readable

variable {path : Path}

theorem not_mem_text (h : path.Readable) {c : Char} (hn : Text.isNamePart c = false)
    (hd : c ≠ '.') : c ∉ path.text := by
  obtain ⟨hhead, hrest⟩ := readable_iff.mp h
  intro hc
  rcases mem_text hhead hrest c hc with hpart | rfl
  · rw [hn] at hpart
    cases hpart
  · exact hd rfl

theorem isWord_text (h : path.Readable) : Text.IsWord path.text := by
  obtain ⟨hhead, hrest⟩ := readable_iff.mp h
  refine ⟨fun hnil => ?_, isBlank_of_mem_text hhead hrest⟩
  have hnone : path.head.toList = [] := (List.append_eq_nil_iff.mp hnil).1
  rw [hnone] at hhead
  cases hhead

theorem parse_append (h : path.Readable) (front : List Char) {back : List Char}
    (hfront : ∀ c ∈ front, Text.isBlank c = true) (hback : ∀ c ∈ back, Text.isBlank c = true) :
    parse (front ++ path.text ++ back) = .ok path :=
  parse_eq_ok_iff.mpr
    ⟨(Text.trim_append hfront h.isWord_text.2 hback).symm, readable_iff.mp h⟩

theorem parse_text (h : path.Readable) : parse path.text = .ok path := by
  simpa using h.parse_append [] (List.forall_mem_nil _) (List.forall_mem_nil _)

theorem eq_of_text (h : path.Readable) {other : Path} (ho : other.Readable)
    (htext : path.text = other.text) : path = other := by
  have hparse := h.parse_text
  rw [htext, ho.parse_text] at hparse
  cases hparse
  rfl

end Readable

end Path

end Stencil
