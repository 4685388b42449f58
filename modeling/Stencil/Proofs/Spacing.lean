import Stencil.Proofs.Words

/-!
# Spacing

Where blanks may stand: around a text, and around and between words. Trimming finds the text that
blanks stand around, and taking the words out of a text finds the only words that it can be made of.
-/

namespace Stencil.Text

def IsGap (text : List Char) : Prop :=
  ∀ c ∈ text, isBlank c = true

def Padded (core text : List Char) : Prop :=
  ∃ front back, IsGap front ∧ IsGap back ∧ text = front ++ core ++ back

/-- Words with blanks around them, and at least one between neighbours. -/
inductive Spaced : List (List Char) → List Char → Prop
  | nil {gap : List Char} (hgap : IsGap gap) : Spaced [] gap
  | cons {gap word rest : List Char} {words : List (List Char)} (hgap : IsGap gap)
      (hword : IsWord word) (hrest : Spaced words rest)
      (hnext : ∀ c ∈ rest.head?, isBlank c = true) : Spaced (word :: words) (gap ++ word ++ rest)

theorem isGap_nil : IsGap [] :=
  List.forall_mem_nil _

-- ---------------------------------------------------------------------------
-- Trimming
-- ---------------------------------------------------------------------------

theorem isGap_takeWhile (text : List Char) : IsGap (text.takeWhile isBlank) :=
  fun _ hc => List.mem_takeWhile_imp hc

theorem padded_trim (text : List Char) : Padded (trim text) text := by
  have hstart : text = text.takeWhile isBlank ++ trimStart text :=
    List.takeWhile_append_dropWhile.symm
  have hend : trimStart text =
      trim text ++ ((trimStart text).reverse.takeWhile isBlank).reverse := by
    rw [trim, trimEnd, ← List.reverse_append, List.takeWhile_append_dropWhile,
      List.reverse_reverse]
  refine ⟨text.takeWhile isBlank, ((trimStart text).reverse.takeWhile isBlank).reverse,
    isGap_takeWhile text, fun c hc => ?_, ?_⟩
  · exact isGap_takeWhile (trimStart text).reverse c (List.mem_reverse.mp hc)
  · rw [List.append_assoc, ← hend, ← hstart]

theorem Padded.not_mem {core text : List Char} {c : Char} (h : Padded core text) (hc : c ∉ core)
    (hblank : isBlank c = false) : c ∉ text := by
  obtain ⟨front, back, hfront, hback, rfl⟩ := h
  have hgap : ∀ gap, IsGap gap → c ∉ gap := by
    intro gap hgap hmem
    rw [hgap c hmem] at hblank
    cases hblank
  simp [hc, hgap front hfront, hgap back hback]

/-- Trimming finds a text without blanks just where blanks stand around it. -/
theorem trim_eq_iff {core text : List Char} (h : ∀ c ∈ core, isBlank c = false) :
    trim text = core ↔ Padded core text := by
  constructor
  · rintro rfl
    exact padded_trim text
  · rintro ⟨front, back, hfront, hback, rfl⟩
    exact trim_append hfront h hback

-- ---------------------------------------------------------------------------
-- Words
-- ---------------------------------------------------------------------------

theorem words_gap_append {gap : List Char} (h : IsGap gap) (text : List Char) :
    words (gap ++ text) = words text := by
  induction gap with
  | nil => rfl
  | cons c gap ih =>
    obtain ⟨hc, hgap⟩ := List.forall_mem_cons.mp h
    rw [List.cons_append, words_blank _ hc, ih hgap]

theorem words_of_isWord {word : List Char} (h : IsWord word) : words word = [word] := by
  have hempty : word.isEmpty = false := by simpa using h.1
  simp [words, fields, split_of_forall h.2, hempty]

theorem words_of_spaced {parts : List (List Char)} {text : List Char} (h : Spaced parts text) :
    words text = parts := by
  induction h with
  | nil hgap => simpa [words_nil] using words_gap_append hgap []
  | @cons gap word rest parts hgap hword _ hnext ih =>
    rw [List.append_assoc, words_gap_append hgap]
    cases rest with
    | nil => rw [List.append_nil, words_of_isWord hword, ← ih, words_nil]
    | cons blank rest =>
      have hblank := hnext blank rfl
      rw [words_append_blank rest hword hblank, ← words_blank rest hblank, ih]

/-- Every text is made of words, by induction from its end: a character that is no blank begins a
word of its own before a blank, and else is part of the word after it. -/
theorem exists_spaced (text : List Char) : ∃ parts, Spaced parts text := by
  induction text with
  | nil => exact ⟨[], .nil isGap_nil⟩
  | cons c text ih =>
    obtain ⟨parts, h⟩ := ih
    cases hc : isBlank c with
    | true =>
      cases h with
      | nil hgap => exact ⟨[], .nil (List.forall_mem_cons.mpr ⟨hc, hgap⟩)⟩
      | cons hgap hword hrest hnext =>
        exact ⟨_, .cons (List.forall_mem_cons.mpr ⟨hc, hgap⟩) hword hrest hnext⟩
    | false =>
      by_cases hnext : ∀ d ∈ text.head?, isBlank d = true
      · have hword : IsWord [c] := ⟨List.cons_ne_nil c [], by simpa using hc⟩
        exact ⟨[c] :: parts, Spaced.cons isGap_nil hword h hnext⟩
      · cases h with
        | nil hgap => exact (hnext fun d hd => hgap d (List.mem_of_mem_head? hd)).elim
        | @cons gap word rest parts hgap hword hrest hafter =>
          cases gap with
          | nil =>
            have hword' : IsWord (c :: word) :=
              ⟨List.cons_ne_nil c word, List.forall_mem_cons.mpr ⟨hc, hword.2⟩⟩
            exact ⟨_, Spaced.cons isGap_nil hword' hrest hafter⟩
          | cons d gap =>
            have hd := (List.forall_mem_cons.mp hgap).1
            exact (hnext (by simpa using hd)).elim

theorem words_eq_iff {parts : List (List Char)} {text : List Char} :
    words text = parts ↔ Spaced parts text := by
  constructor
  · rintro rfl
    obtain ⟨parts, h⟩ := exists_spaced text
    rwa [words_of_spaced h]
  · exact words_of_spaced

end Stencil.Text
