import Stencil.Proofs.ExposedNames

/-!
# Words of titles

Where the words of a title start. A letter is a capital just when a word starts at its place, and
whether one does is decided by the two characters before it: an apostrophe after a letter inside a
word goes on with the word. Changing case changes none of this, so a title is its own title.
-/

namespace Stencil.Text

/-- Whether a word starts at a place of a text: at its beginning, and after a character that is
neither letter nor digit, unless this is an apostrophe after a letter at which no word starts. -/
def wordStartsAt (text : List Char) : Nat → Bool
  | 0 => true
  | 1 => !text[0]?.any Char.isAlphanum
  | i + 2 => !text[i + 1]?.any Char.isAlphanum &&
      !(text[i + 1]?.any (· == '\'') && text[i]?.any Char.isAlpha && !wordStartsAt text i)

def withCapitals (text : List Char) : List Char :=
  text.mapIdx fun i c => inCase (wordStartsAt text i) c

variable {capital : Bool} {c : Char} {text : List Char}

-- ---------------------------------------------------------------------------
-- Characters
-- ---------------------------------------------------------------------------

theorem isAlphanumeric_of_ascii (h : c.toNat < 0x80) : isAlphanumeric c = c.isAlphanum := by
  simp [isAlphanumeric, h]

theorem isLowercase_inCase (h : c.toNat < 0x80) :
    isLowercase (inCase capital c) = (c.isAlpha && !capital) :=
  forall_ascii (p := fun c => ∀ b, isLowercase (inCase b c) = (c.isAlpha && !b))
    (by decide +kernel) h capital

theorem isUpper_inCase (h : c.toNat < 0x80) :
    (inCase capital c).isUpper = (c.isAlpha && capital) :=
  forall_ascii (p := fun c => ∀ b, (inCase b c).isUpper = (c.isAlpha && b))
    (by decide +kernel) h capital

theorem isAlpha_inCase (h : c.toNat < 0x80) : (inCase capital c).isAlpha = c.isAlpha :=
  forall_ascii (p := fun c => ∀ b, (inCase b c).isAlpha = c.isAlpha) (by decide +kernel) h capital

theorem isAlphanum_inCase (h : c.toNat < 0x80) : (inCase capital c).isAlphanum = c.isAlphanum :=
  forall_ascii (p := fun c => ∀ b, (inCase b c).isAlphanum = c.isAlphanum)
    (by decide +kernel) h capital

theorem inCase_beq_apostrophe (h : c.toNat < 0x80) :
    (inCase capital c == '\'') = (c == '\'') :=
  forall_ascii (p := fun c => ∀ b, (inCase b c == '\'') = (c == '\'')) (by decide +kernel) h capital

theorem toLower_inCase (h : c.toNat < 0x80) : (inCase capital c).toLower = c.toLower :=
  forall_ascii (p := fun c => ∀ b, (inCase b c).toLower = c.toLower) (by decide +kernel) h capital

theorem inCase_inCase (h : c.toNat < 0x80) : inCase capital (inCase capital c) = inCase capital c :=
  forall_ascii (p := fun c => ∀ b, inCase b (inCase b c) = inCase b c) (by decide +kernel) h capital

-- ---------------------------------------------------------------------------
-- Capitals
-- ---------------------------------------------------------------------------

@[simp] theorem length_withCapitals (text : List Char) :
    (withCapitals text).length = text.length := by
  simp [withCapitals]

theorem getElem?_withCapitals (text : List Char) (i : Nat) :
    (withCapitals text)[i]? = text[i]?.map (inCase (wordStartsAt text i)) := by
  simp [withCapitals]

theorem toNat_lt_of_getElem? (h : ∀ d ∈ text, d.toNat < 0x80) {i : Nat} (hc : text[i]? = some c) :
    c.toNat < 0x80 :=
  h c (List.mem_of_getElem? hc)

theorem map_toLower_withCapitals (h : ∀ d ∈ text, d.toNat < 0x80) :
    (withCapitals text).map Char.toLower = text.map Char.toLower := by
  refine List.ext_getElem? fun i => ?_
  rw [List.getElem?_map, List.getElem?_map, getElem?_withCapitals]
  cases hc : text[i]? with
  | none => rfl
  | some c => simp [toLower_inCase (toNat_lt_of_getElem? h hc)]

theorem toNat_lt_of_mem_withCapitals (h : ∀ d ∈ text, d.toNat < 0x80) :
    ∀ d ∈ withCapitals text, d.toNat < 0x80 := by
  intro d hd
  obtain ⟨i, hi⟩ := List.mem_iff_getElem?.mp hd
  rw [getElem?_withCapitals] at hi
  obtain ⟨c, hc, rfl⟩ := Option.map_eq_some_iff.mp hi
  exact toNat_inCase_lt _ (toNat_lt_of_getElem? h hc)

theorem any_withCapitals {p : Char → Bool}
    (hp : ∀ c : Char, c.toNat < 0x80 → ∀ capital, p (inCase capital c) = p c)
    (h : ∀ d ∈ text, d.toNat < 0x80) (i : Nat) :
    (withCapitals text)[i]?.any p = text[i]?.any p := by
  rw [getElem?_withCapitals]
  cases hc : text[i]? with
  | none => rfl
  | some c => exact hp c (toNat_lt_of_getElem? h hc) _

/-- Words start at the same places whatever the case of the letters. -/
theorem wordStartsAt_withCapitals (h : ∀ d ∈ text, d.toNat < 0x80) (i : Nat) :
    wordStartsAt (withCapitals text) i = wordStartsAt text i := by
  have hnumber := any_withCapitals (fun _ hc _ => isAlphanum_inCase hc) h
  have hletter := any_withCapitals (fun _ hc _ => isAlpha_inCase hc) h
  have hapostrophe := any_withCapitals (p := (· == '\'')) (fun _ hc _ => inCase_beq_apostrophe hc) h
  induction i using wordStartsAt.induct with
  | case1 => rfl
  | case2 => rw [wordStartsAt, wordStartsAt, hnumber]
  | case3 i ih => rw [wordStartsAt, wordStartsAt, hnumber, hletter, hapostrophe, ih]

theorem withCapitals_withCapitals (h : ∀ d ∈ text, d.toNat < 0x80) :
    withCapitals (withCapitals text) = withCapitals text := by
  refine List.ext_getElem? fun i => ?_
  rw [getElem?_withCapitals, wordStartsAt_withCapitals h, getElem?_withCapitals]
  cases hc : text[i]? with
  | none => rfl
  | some c => simp [inCase_inCase (toNat_lt_of_getElem? h hc)]

-- ---------------------------------------------------------------------------
-- Titles
-- ---------------------------------------------------------------------------

/-- What decides on a capital is the character before it and the one written before that. -/
theorem startsWord_take (h : ∀ d ∈ text, d.toNat < 0x80) {i : Nat} (hi : i ≤ text.length) :
    startsWord (text.take i).getLast? ((withCapitals text).take i).reverse[1]? =
      wordStartsAt text i := by
  match i, hi with
  | 0, _ => rfl
  | 1, hi =>
    have hlast : (text.take 1).getLast? = some text[0] := by
      simp [List.getLast?_take, List.getElem?_eq_getElem hi]
    have hp : text[0].toNat < 0x80 := h _ (List.getElem_mem hi)
    simp [hlast, startsWord, wordStartsAt, isAlphanumeric_of_ascii hp,
      List.getElem?_eq_getElem hi]
  | i + 2, hi =>
    have hlast : (text.take (i + 2)).getLast? = some text[i + 1] := by
      simp [List.getLast?_take, List.getElem?_eq_getElem hi]
    have hwritten : ((withCapitals text).take (i + 2)).reverse[1]? =
        some (inCase (wordStartsAt text i) text[i]) := by
      rw [List.getElem?_reverse' (j := i) (by simp; omega), List.getElem?_take_of_lt (by omega),
        getElem?_withCapitals, List.getElem?_eq_getElem (by omega), Option.map_some]
    have hp : text[i + 1].toNat < 0x80 := h _ (List.getElem_mem hi)
    have hq : text[i].toNat < 0x80 := h _ (List.getElem_mem (by omega))
    have hsecond : text[i + 1]? = some text[i + 1] := List.getElem?_eq_getElem hi
    have hfirst : text[i]? = some text[i] := List.getElem?_eq_getElem (by omega)
    rw [hlast, hwritten, startsWord, wordStartsAt, hfirst, hsecond]
    simp only [isAlphanumeric_of_ascii hp, Option.any_some, isLowercase_inCase hq]
    by_cases hapostrophe : text[i + 1] = '\''
    · simp [hapostrophe]
    · simp [hapostrophe]

theorem upperOrLower_of_ascii (h : c.toNat < 0x80) (capital : Bool) :
    (if capital then upperChar c else lowerChar c) = [inCase capital c] := by
  cases capital
  · exact lowerChar_of_ascii h
  · exact upperChar_of_ascii h

/-- With the first part of a text written in capitals where words start, the rest follows suit. -/
theorem titleFrom_drop (h : ∀ d ∈ text, d.toNat < 0x80) {rest : List Char} {i : Nat}
    (hrest : text.drop i = rest) :
    titleFrom (text.take i).getLast? ((withCapitals text).take i).reverse rest =
      (withCapitals text).drop i := by
  induction rest generalizing i with
  | nil =>
    have hlength : text.length ≤ i := List.drop_eq_nil_iff.mp hrest
    rw [titleFrom, List.drop_eq_nil_of_le (by simpa using hlength)]
  | cons c rest ih =>
    have hi : i < text.length := by
      by_contra hle
      rw [List.drop_eq_nil_of_le (by omega)] at hrest
      cases hrest
    have hi' : i < (withCapitals text).length := by simpa using hi
    rw [List.drop_eq_getElem_cons hi] at hrest
    obtain ⟨rfl, hnext⟩ := List.cons.inj hrest
    have hc : text[i].toNat < 0x80 := h _ (List.getElem_mem hi)
    have hchar : (withCapitals text)[i] = inCase (wordStartsAt text i) text[i] := by
      simp [withCapitals]
    have hlast : (text.take (i + 1)).getLast? = some text[i] := by
      rw [List.take_succ_eq_append_getElem hi, List.getLast?_concat]
    have hwritten : ((withCapitals text).take (i + 1)).reverse =
        [inCase (wordStartsAt text i) text[i]].reverse ++ ((withCapitals text).take i).reverse := by
      rw [List.take_succ_eq_append_getElem hi', hchar, List.reverse_append]
    rw [titleFrom, startsWord_take h hi.le, upperOrLower_of_ascii hc, ← hlast, ← hwritten, ih hnext,
      List.drop_eq_getElem_cons hi', hchar]
    rfl

theorem title_eq_withCapitals (h : ∀ d ∈ text, d.toNat < 0x80) : title text = withCapitals text :=
  titleFrom_drop h (i := 0) List.drop_zero

/-- A title is the text but for the case of letters, and a letter of it is a capital just when a
word starts at its place. The title of a title is the same. -/
theorem title_by_words (h : ∀ d ∈ text, d.toNat < 0x80) :
    (title text).length = text.length ∧
    (title text).map Char.toLower = text.map Char.toLower ∧
    (∀ i, ∀ c ∈ (title text)[i]?, c.isAlpha = true →
      (c.isUpper = true ↔ wordStartsAt text i = true)) ∧
    title (title text) = title text := by
  have htitle := title_eq_withCapitals h
  refine ⟨by rw [htitle, length_withCapitals], by rw [htitle, map_toLower_withCapitals h], ?_, ?_⟩
  · intro i c hc hletter
    rw [htitle, getElem?_withCapitals] at hc
    obtain ⟨d, hd, rfl⟩ := Option.map_eq_some_iff.mp hc
    have hascii := toNat_lt_of_getElem? h hd
    rw [isAlpha_inCase hascii] at hletter
    simp [isUpper_inCase hascii, hletter]
  · rw [htitle, title_eq_withCapitals (toNat_lt_of_mem_withCapitals h), withCapitals_withCapitals h]

theorem title_by_words_apostrophes :
    let text := "rock'N'rOLL 'TIS o'NEIL 2ND".toList
    let capitals := "Rock'n'roll 'Tis O'Neil 2nd".toList
    (∀ d ∈ text, d.toNat < 0x80) ∧ title text = capitals ∧ title capitals = capitals ∧
      wordStartsAt text 5 = false ∧ wordStartsAt text 13 = true ∧ wordStartsAt text 19 = true := by
  intro text capitals
  have hascii : ∀ d ∈ text, d.toNat < 0x80 := by simp [text]
  have htitle : title text = capitals := by rfl
  obtain ⟨-, -, hcapital, hagain⟩ := title_by_words hascii
  rw [htitle] at hcapital hagain
  refine ⟨hascii, htitle, hagain, ?_, ?_, ?_⟩
  · have hletter := hcapital 5 'n' (by decide) (by decide)
    simpa using hletter
  · exact (hcapital 13 'T' (by decide) (by decide)).mp (by decide)
  · exact (hcapital 19 'N' (by decide) (by decide)).mp (by decide)

end Stencil.Text
