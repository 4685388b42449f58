import Stencil.Proofs.TomlStrings
import Stencil.Toml.Reader

/-!
# Lines in TOML

A value that is written at the end of a line is read back from its own text, whatever stands on the
lines after it: a string, an array of strings, a number and a truth value. So is a line that gives
a value a name without quotes.
-/

namespace Stencil.Toml

variable {c d : Char} {digits code rest after : List Char} {n : Nat}

-- ---------------------------------------------------------------------------
-- Numbers
-- ---------------------------------------------------------------------------

namespace Datetime

theorem readChar_of_readField {count low high : Nat}
    (hdigits : ∀ e ∈ digits, e.isDigit = true) (hd : d.isDigit = false) (hc : c.isDigit = false)
    (hne : d ≠ c) (h : readField count low high (digits ++ d :: rest) = some (n, after)) :
    readChar c after = none := by
  simp only [readField, Option.ite_none_right_eq_some, Option.some.injEq, Prod.mk.injEq] at h
  obtain ⟨⟨-, hall, -, -⟩, -, rfl⟩ := h
  by_cases hcount : count ≤ digits.length
  · rw [List.drop_append_of_le_length hcount]
    cases hback : digits.drop count with
    | nil => simp [readChar, hne]
    | cons e back =>
      have he : e.isDigit = true := hdigits e (List.mem_of_mem_drop (hback ▸ List.mem_cons_self))
      simp [readChar, Text.ne_of_class he hc]
  · have hmem : d ∈ (digits ++ d :: rest).take count := by
      obtain ⟨more, rfl⟩ := Nat.exists_eq_add_of_lt (Nat.lt_of_not_le hcount)
      simp [List.take_append, Nat.add_assoc]
    simp [List.all_eq_true.mp hall d hmem] at hd

theorem read_digits (hdigits : ∀ e ∈ digits, e.isDigit = true) (rest : List Char) :
    read (digits ++ '\n' :: rest) = none := by
  have hdate : readDate (digits ++ '\n' :: rest) = none := by
    unfold readDate
    cases hfield : readField 4 0 9999 (digits ++ '\n' :: rest) with
    | none => rfl
    | some field =>
      simp [readChar_of_readField hdigits rfl (c := '-') rfl (by decide) hfield]
  have htime : readTime (digits ++ '\n' :: rest) = none := by
    unfold readTime
    cases hfield : readField 2 0 23 (digits ++ '\n' :: rest) with
    | none => rfl
    | some field =>
      simp [readChar_of_readField hdigits rfl (c := ':') rfl (by decide) hfield]
  simp [read, hdate, htime]

end Datetime

namespace Scalar

theorem readDigits_append (hdigits : ∀ e ∈ digits, e.isDigit = true) (rest : List Char) :
    readDigits Char.isDigit (digits ++ '\n' :: rest) = (digits, '\n' :: rest) := by
  induction digits with
  | nil =>
    unfold readDigits
    split
    · next h => cases h
    all_goals
      next h =>
        cases h
        rfl
  | cons e digits ih =>
    obtain ⟨he, hrest⟩ := List.forall_mem_cons.mp hdigits
    rw [List.cons_append, readDigits, if_pos he, ih hrest]
    intro f others h
    cases digits with
    | nil => cases h
    | cons g digits =>
      obtain rfl : g = '_' := (List.cons.inj h).1
      exact absurd (hrest '_' List.mem_cons_self) (by decide)

theorem head?_toDigits (h : 0 < n) : (Nat.toDigits 10 n).head? ≠ some '0' := by
  induction n using Nat.strongRecOn with
  | ind n ih =>
    by_cases hsmall : n < 10
    · rw [Nat.toDigits_of_lt_base hsmall]
      interval_cases n <;> decide
    · rw [Nat.toDigits_of_base_le (by decide) (Nat.le_of_not_lt hsmall),
        List.head?_append_of_ne_nil _ Nat.toDigits_ne_nil]
      exact ih (n / 10) (by omega) (by omega)

theorem exists_toDigits (n : Nat) : ∃ c digits, Nat.toDigits 10 n = c :: digits ∧
    c.isDigit = true ∧ ∀ e ∈ digits, e.isDigit = true := by
  have hdigits : ∀ e ∈ Nat.toDigits 10 n, e.isDigit = true :=
    fun e he => Nat.isDigit_of_mem_toDigits (by decide) (by decide) he
  obtain ⟨c, digits, hc⟩ := List.exists_cons_of_ne_nil (Nat.toDigits_ne_nil (n := n) (b := 10))
  rw [hc] at hdigits
  exact ⟨c, digits, hc, List.forall_mem_cons.mp hdigits⟩

theorem readWhole_toDigits (n : Nat) (rest : List Char) :
    readWhole (Nat.toDigits 10 n ++ '\n' :: rest) = some (Nat.toDigits 10 n, '\n' :: rest) := by
  rcases Nat.eq_zero_or_pos n with rfl | hn
  · rfl
  · have hfirst := head?_toDigits hn
    obtain ⟨c, digits, hc, hdigits⟩ := exists_toDigits n
    have hread := readDigits_append (List.forall_mem_cons.mpr hdigits) rest
    rw [hc] at hfirst ⊢
    unfold readWhole
    split
    · next h => exact absurd (congrArg some (List.cons.inj h).1) hfirst
    · simp only [hread]
      rfl

theorem readSign_digit (hc : c.isDigit = true) (rest : List Char) :
    readSign (c :: rest) = (false, c :: rest) := by
  unfold readSign
  split
  · next h => cases h; cases hc
  · next h => cases h; cases hc
  · rfl

theorem readBoolean_digit (hc : c.isDigit = true) (rest : List Char) :
    readBoolean (c :: rest) = none := by
  unfold readBoolean
  split
  · next h => cases h; cases hc
  · next h => cases h; cases hc
  · rfl

theorem readSpecial_digit (hc : c.isDigit = true) (rest : List Char) :
    readSpecial (c :: rest) = none := by
  unfold readSpecial
  split
  · next h => cases h; cases hc
  · next h => cases h; cases hc
  · rfl

theorem readFloat_of_readWhole (hc : c.isDigit = true)
    (h : readWhole (c :: after) = some (digits, '\n' :: rest)) : readFloat (c :: after) = none := by
  simp [readFloat, readSign_digit hc, readSpecial_digit hc, h, readFraction, readExponent]

theorem readInteger_of_readWhole (hc : c.isDigit = true)
    (hd : ∀ d ∈ after.head?, d.isDigit = true ∨ d = '\n')
    (h : readWhole (c :: after) = some (digits, rest))
    (hn : Text.digitsValue digits < 0x8000000000000000) :
    readInteger (c :: after) = some (.integer (Text.digitsValue digits), rest) := by
  unfold readInteger
  split
  · next h => cases h; simp at hd
  · next h => cases h; simp at hd
  · next h => cases h; simp at hd
  · simp [readSign_digit hc, h]
    omega

/-- The digits of a number that fits a signed word are read back at the end of a line. -/
theorem read_toDigits (h : n < 0x8000000000000000) (rest : List Char) :
    read (Nat.toDigits 10 n ++ '\n' :: rest) = some (.integer n, '\n' :: rest) := by
  have hwhole := readWhole_toDigits n rest
  have hvalue : Text.digitsValue (Nat.toDigits 10 n) = n := by
    rw [Text.digitsValue_eq_ofDigitChars, Nat.ofDigitChars_ten_toDigits]
  obtain ⟨c, digits, hdigits, hc, hothers⟩ := exists_toDigits n
  rw [hdigits] at hwhole hvalue ⊢
  have hdatetime := Datetime.read_digits (List.forall_mem_cons.mpr ⟨hc, hothers⟩) rest
  have hnext : ∀ d ∈ (digits ++ '\n' :: rest).head?, d.isDigit = true ∨ d = '\n' := by
    cases digits <;> simp_all
  have hinteger := readInteger_of_readWhole hc hnext hwhole (hvalue.symm ▸ h)
  simp only [List.cons_append] at *
  simp [read, readBoolean_digit hc, hdatetime, readFloat_of_readWhole hc hwhole, hinteger, hvalue]

end Scalar

-- ---------------------------------------------------------------------------
-- Arrays of strings
-- ---------------------------------------------------------------------------

open Quoted

namespace Reader

variable {depth fuel : Nat} {text last : List Char} {data : Toml} {items : List Toml}

theorem readValue_encode (depth fuel : Nat) (text rest : List Char)
    (hquote : rest.head? ≠ some '"') (hapostrophe : rest.head? ≠ some '\'') :
    readValue depth (fuel + 1) (encode text ++ rest) =
      some (.string (String.ofList text), rest) := by
  have hread : readString (encode text ++ rest) = some (.string (String.ofList text), rest) := by
    simp [readString, decode_encode text hquote hapostrophe]
  obtain ⟨quote, code, hcode, rfl | rfl⟩ := exists_encode text
  all_goals
    rw [hcode] at hread ⊢
    simpa [readValue] using hread

theorem readItems_last (hskip : skipLines (text.length + 1) text = c :: rest) (hc : c ≠ ']')
    (hvalue : readValue depth fuel (c :: rest) = some (data, ']' :: after)) :
    readItems depth (fuel + 1) text = some ([data], after) := by
  have hend : skipLines ((']' :: after).length + 1) (']' :: after) = ']' :: after := rfl
  simp only [readItems, hskip]
  split
  · next h => exact absurd (List.cons.inj h).1 hc
  · simp only [hvalue, Option.bind_eq_bind, Option.bind_some, hend]
    rfl

theorem readItems_comma (hskip : skipLines (text.length + 1) text = c :: rest) (hc : c ≠ ']')
    (hvalue : readValue depth fuel (c :: rest) = some (data, ',' :: after))
    (hitems : readItems depth fuel after = some (items, last)) :
    readItems depth (fuel + 1) text = some (data :: items, last) := by
  have hcomma : skipLines ((',' :: after).length + 1) (',' :: after) = ',' :: after := rfl
  simp only [readItems, hskip]
  split
  · next h => exact absurd (List.cons.inj h).1 hc
  · simp only [hvalue, Option.bind_eq_bind, Option.bind_some, hcomma, hitems]
    rfl

theorem skipLines_encode {front : List Char} (hfront : front = [] ∨ front = [' ']) (fuel : Nat)
    (text : List Char) :
    skipLines (fuel + 1) (front ++ (encode text ++ rest)) = encode text ++ rest := by
  obtain ⟨quote, code, hcode, hquote⟩ := exists_encode text
  rw [hcode]
  rcases hfront with rfl | rfl <;> rcases hquote with rfl | rfl <;> rfl

def itemsText (texts : List String) : List Char :=
  ((texts.map fun text => encode text.toList).intersperse [',', ' ']).flatten

theorem itemsText_singleton (text : String) : itemsText [text] = encode text.toList := by
  simp [itemsText]

theorem itemsText_cons_cons (text next : String) (texts : List String) :
    itemsText (text :: next :: texts) =
      encode text.toList ++ ',' :: ' ' :: itemsText (next :: texts) := by
  simp [itemsText]

theorem length_le_length_itemsText (texts : List String) :
    texts.length ≤ (itemsText texts).length := by
  induction texts with
  | nil => exact Nat.le_refl 0
  | cons text texts ih =>
    obtain ⟨quote, code, hcode, -⟩ := exists_encode text.toList
    cases texts with
    | nil => simp [itemsText_singleton, hcode]
    | cons next texts =>
      simp only [itemsText_cons_cons, List.length_append, List.length_cons] at ih ⊢
      omega

theorem readItems_itemsText (depth : Nat) {front : List Char} (hfront : front = [] ∨ front = [' '])
    (texts : List String) (rest : List Char) (h : texts.length < fuel) :
    readItems depth fuel (front ++ (itemsText texts ++ ']' :: rest)) =
      some (texts.map .string, rest) := by
  induction texts generalizing front fuel with
  | nil =>
    obtain ⟨fuel, rfl⟩ := Nat.exists_eq_succ_of_ne_zero (Nat.ne_zero_of_lt h)
    rcases hfront with rfl | rfl <;> rfl
  | cons text texts ih =>
    obtain ⟨fuel, rfl⟩ : ∃ more, fuel = more + 2 := ⟨fuel - 2, by simp at h; omega⟩
    obtain ⟨quote, code, hcode, hquote⟩ := exists_encode text.toList
    have hopen : quote ≠ ']' := by rcases hquote with rfl | rfl <;> decide
    have hskip : ∀ fuel rest, skipLines (fuel + 1) (front ++ (quote :: code ++ rest)) =
        quote :: code ++ rest := by
      intro fuel rest
      exact hcode ▸ skipLines_encode hfront fuel text.toList
    cases texts with
    | nil =>
      have hvalue := readValue_encode depth fuel text.toList (']' :: rest) (by simp) (by simp)
      rw [hcode] at hvalue
      rw [itemsText_singleton, hcode]
      simpa using readItems_last (hskip ..) hopen hvalue
    | cons next texts =>
      have hitems : readItems depth (fuel + 1)
          ([' '] ++ (itemsText (next :: texts) ++ ']' :: rest)) = some (_, rest) :=
        ih (.inr rfl) (Nat.lt_of_succ_lt_succ h)
      have hvalue := readValue_encode depth fuel text.toList
        (',' :: ([' '] ++ (itemsText (next :: texts) ++ ']' :: rest))) (by simp) (by simp)
      rw [hcode] at hvalue
      have hcomma := readItems_comma (hskip ..) hopen hvalue hitems
      rw [itemsText_cons_cons, hcode]
      simpa using hcomma

end Reader

-- ---------------------------------------------------------------------------
-- Values
-- ---------------------------------------------------------------------------

open Reader

variable {name : String} {data : Toml}

/-- A text that is read as data at the end of a line. No blank comes first. -/
structure Writes (code : List Char) (data : Toml) : Prop where
  first : ∀ c ∈ code.head?, isSpace c = false
  read : ∀ fuel rest, code.length < fuel →
    readValue maxDepth fuel (code ++ '\n' :: rest) = some (data, '\n' :: rest)

theorem writes_encode (text : List Char) : Writes (encode text) (.string (String.ofList text)) := by
  constructor
  · obtain ⟨quote, code, hcode, rfl | rfl⟩ := exists_encode text
    all_goals
      rw [hcode]
      simp [isSpace]
  · intro fuel rest h
    obtain ⟨fuel, rfl⟩ := Nat.exists_eq_succ_of_ne_zero (Nat.ne_zero_of_lt h)
    exact readValue_encode maxDepth fuel text _ (by simp) (by simp)

theorem writes_toDigits (h : n < 0x8000000000000000) : Writes (Nat.toDigits 10 n) (.integer n) := by
  have hread := Scalar.read_toDigits h
  obtain ⟨c, digits, hdigits, hc, -⟩ := Scalar.exists_toDigits n
  rw [hdigits] at hread ⊢
  constructor
  · have hspace : c ≠ ' ' := Text.ne_of_class hc (by decide)
    have htab : c ≠ '\t' := Text.ne_of_class hc (by decide)
    simp [isSpace, hspace, htab]
  · intro fuel rest hfuel
    obtain ⟨fuel, rfl⟩ := Nat.exists_eq_succ_of_ne_zero (Nat.ne_zero_of_lt hfuel)
    have hrest := hread rest
    rw [List.cons_append] at hrest ⊢
    unfold readValue
    split
    · next h => cases h; cases hc
    · next h => cases h; cases hc
    · next h => cases h; cases hc
    · next h => cases h; cases hc
    · exact hrest

theorem writes_boolean (value : Bool) :
    Writes (if value then "true".toList else "false".toList) (.boolean value) := by
  constructor
  · cases value <;> simp [isSpace]
  · intro fuel rest h
    obtain ⟨fuel, rfl⟩ := Nat.exists_eq_succ_of_ne_zero (Nat.ne_zero_of_lt h)
    cases value <;> rfl

theorem writes_itemsText (texts : List String) :
    Writes ('[' :: (itemsText texts ++ [']'])) (.array (texts.map .string)) := by
  constructor
  · simp [isSpace]
  · intro fuel rest h
    obtain ⟨fuel, rfl⟩ := Nat.exists_eq_succ_of_ne_zero (Nat.ne_zero_of_lt h)
    have hlength := length_le_length_itemsText texts
    have hfuel : texts.length < fuel := by
      simp at h
      omega
    have hitems := readItems_itemsText (maxDepth - 1) (.inl rfl) texts ('\n' :: rest) hfuel
    have hdepth : maxDepth ≠ 0 := by decide
    rw [List.nil_append] at hitems
    simp [readValue, hdepth, hitems]

-- ---------------------------------------------------------------------------
-- Lines
-- ---------------------------------------------------------------------------

def IsBareName (name : String) : Prop :=
  name.toList ≠ [] ∧ ∀ c ∈ name.toList, isBare c = true

theorem Reader.skipSpace_cons (hc : isSpace c = false) (rest : List Char) :
    skipSpace (c :: rest) = c :: rest := by
  simp [skipSpace, hc]

theorem Reader.isSpace_of_isBare (hc : isBare c = true) : isSpace c = false := by
  simp only [isSpace, Bool.or_eq_false_iff, beq_eq_false_iff_ne]
  exact ⟨Text.ne_of_class hc (by decide), Text.ne_of_class hc (by decide)⟩

theorem Writes.skipSpace (h : Writes code data) (rest : List Char) :
    skipSpace (' ' :: (code ++ '\n' :: rest)) = code ++ '\n' :: rest := by
  have hspace : Reader.skipSpace (' ' :: (code ++ '\n' :: rest)) =
      Reader.skipSpace (code ++ '\n' :: rest) := rfl
  rw [hspace]
  cases code with
  | nil => rfl
  | cons c code => exact skipSpace_cons (h.first c rfl) _

theorem Reader.skipLines_bare (hc : isBare c = true) (fuel : Nat) (rest : List Char) :
    skipLines (fuel + 1) (c :: rest) = c :: rest := by
  have hcomment : skipComment (skipSpace (c :: rest)) = c :: rest := by
    rw [skipSpace_cons (isSpace_of_isBare hc)]
    unfold skipComment
    split
    · next h => exact absurd (List.cons.inj h).1 (Text.ne_of_class hc (by decide))
    · rfl
  unfold skipLines
  rw [hcomment]
  split
  · next h => exact absurd (List.cons.inj h).1 (Text.ne_of_class hc (by decide))
  · next h => exact absurd (List.cons.inj h).1 (Text.ne_of_class hc (by decide))
  · rfl

namespace IsBareName

theorem exists_cons (h : IsBareName name) :
    ∃ c others, name.toList = c :: others ∧ isBare c = true := by
  obtain ⟨c, others, hc⟩ := List.exists_cons_of_ne_nil h.1
  exact ⟨c, others, hc, h.2 c (by simp [hc])⟩

theorem readName (h : IsBareName name) (rest : List Char) :
    readName (name.toList ++ ' ' :: rest) = some (name, ' ' :: rest) := by
  have htake : (name.toList ++ ' ' :: rest).takeWhile isBare = name.toList := by
    rw [List.takeWhile_append_of_pos h.2]
    simp [isBare]
  have hdrop : (name.toList ++ ' ' :: rest).dropWhile isBare = ' ' :: rest := by
    rw [List.dropWhile_append_of_pos h.2]
    simp [isBare]
  obtain ⟨c, others, hc, hbare⟩ := h.exists_cons
  have hquote : c ≠ '"' := Text.ne_of_class hbare (by decide)
  have hapostrophe : c ≠ '\'' := Text.ne_of_class hbare (by decide)
  unfold Reader.readName
  split
  · next h => simp_all
  · next h => simp_all
  · next h => simp_all
  · next h => simp_all
  · simp only [htake, hdrop]
    simp [h.1]

theorem readPath (h : IsBareName name) (fuel : Nat) (rest : List Char) :
    readPath (fuel + 1) (name.toList ++ ' ' :: '=' :: rest) = some ([], name, '=' :: rest) := by
  have hread := h.readName ('=' :: rest)
  have hequals : skipSpace (' ' :: '=' :: rest) = '=' :: rest := rfl
  obtain ⟨c, others, hc, hbare⟩ := h.exists_cons
  rw [hc, List.cons_append] at hread ⊢
  simp [Reader.readPath, skipSpace_cons (isSpace_of_isBare hbare), hread, hequals]

theorem readStatement (h : IsBareName name) (hcode : Writes code data) (rest : List Char) :
    readStatement (name.toList ++ ' ' :: '=' :: ' ' :: (code ++ '\n' :: rest)) =
      some (.pair [] name data, '\n' :: rest) := by
  have hpath : Reader.readPath maxDepth _ = _ := h.readPath 78 (' ' :: (code ++ '\n' :: rest))
  have hread := hcode.read ((' ' :: (code ++ '\n' :: rest)).length + 1) rest (by simp; omega)
  obtain ⟨c, others, hc, hbare⟩ := h.exists_cons
  have hopen : c ≠ '[' := Text.ne_of_class hbare (by decide)
  unfold Reader.readStatement
  split
  · next h => simp_all
  · next h => simp_all
  · simp only [hpath, Option.bind_eq_bind, Option.bind_some, hcode.skipSpace, hread]
    rfl

theorem readStatements (h : IsBareName name) (hcode : Writes code data) (fuel : Nat)
    (rest : List Char) :
    readStatements (fuel + 1) (name.toList ++ ' ' :: '=' :: ' ' :: (code ++ '\n' :: rest)) =
      (readStatements fuel rest).map (.pair [] name data :: ·) := by
  have hread := h.readStatement hcode rest
  have hend : skipLineEnd ('\n' :: rest) = some rest := rfl
  obtain ⟨c, others, hc, hbare⟩ := h.exists_cons
  rw [hc, List.cons_append] at hread ⊢
  simp only [Reader.readStatements, skipLines_bare hbare, hread, Option.bind_eq_bind,
    Option.bind_some, hend]
  cases Reader.readStatements fuel rest <;> rfl

end IsBareName

end Stencil.Toml
