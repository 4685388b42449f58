import Stencil.Json.Reader

/-!
# Strings in JSON

Reading a string gives back the text that was written, and stops directly after it. One written
character is read at a time, whatever follows.
-/

namespace Stencil.Json

namespace Reader

variable {c : Char} {text rest content after : List Char} {fuel : Nat}

theorem readHex4_two_digits (h : c.toNat < 0x100) (rest : List Char) :
    readHex4 ('0' :: '0' :: (c.toNat / 16).digitChar :: (c.toNat % 16).digitChar :: rest) =
      some (c.toNat, rest) := by
  have hzero : Text.hexValue? '0' = some 0 := rfl
  have hhigh : Text.hexValue? (c.toNat / 16).digitChar = some (c.toNat / 16) :=
    Text.hexValue?_digitChar (by omega)
  have hlow : Text.hexValue? (c.toNat % 16).digitChar = some (c.toNat % 16) :=
    Text.hexValue?_digitChar (by omega)
  have hsum : c.toNat / 16 * 16 + c.toNat % 16 = c.toNat := by omega
  simp [readHex4, hzero, hhigh, hlow, hsum]

theorem readEscape_control (h : c.toNat < 0x20) (rest : List Char) :
    readEscape ('u' :: '0' :: '0' :: (c.toNat / 16).digitChar :: (c.toNat % 16).digitChar :: rest) =
      some (some c, rest) := by
  have hhigh : ¬0xD800 ≤ c.toNat := by omega
  have hlow : ¬0xDC00 ≤ c.toNat := by omega
  simp [readEscape, readHex4_two_digits (by omega : c.toNat < 0x100), hhigh, hlow]

theorem readString_escaped (code : List Char)
    (hcode : readEscape (code ++ rest) = some (some c, rest))
    (h : readString fuel rest = some (some content, after)) :
    readString (fuel + 1) ('\\' :: (code ++ rest)) = some (some (c :: content), after) := by
  simp [readString, hcode, h]

theorem readString_plain (hcontrol : ¬c.toNat < 0x20) (hquote : c ≠ '"') (hescape : c ≠ '\\')
    (h : readString fuel rest = some (some content, after)) :
    readString (fuel + 1) (c :: rest) = some (some (c :: content), after) := by
  rw [readString]
  · simp [hcontrol, h]
  · simpa using hquote
  · simpa using hescape

theorem readString_quoteChar (c : Char) (h : readString fuel rest = some (some content, after)) :
    readString (fuel + 1) (quoteChar c ++ rest) = some (some (c :: content), after) := by
  unfold quoteChar
  split
  · exact readString_escaped ['"'] rfl h
  · exact readString_escaped ['\\'] rfl h
  · exact readString_escaped ['b'] rfl h
  · exact readString_escaped ['f'] rfl h
  · exact readString_escaped ['n'] rfl h
  · exact readString_escaped ['r'] rfl h
  · exact readString_escaped ['t'] rfl h
  · next hquote hescape _ _ _ _ _ =>
    split
    · next hcontrol =>
      exact readString_escaped ['u', '0', '0', (c.toNat / 16).digitChar, (c.toNat % 16).digitChar]
        (readEscape_control hcontrol rest) h
    · next hplain => exact readString_plain hplain hquote hescape h

theorem readString_quoted (h : text.length < fuel) (rest : List Char) :
    readString fuel (text.flatMap quoteChar ++ '"' :: rest) = some (some text, rest) := by
  induction text generalizing fuel with
  | nil =>
    cases fuel with
    | zero => contradiction
    | succ fuel => rfl
  | cons c text ih =>
    cases fuel with
    | zero => contradiction
    | succ fuel =>
      rw [List.flatMap_cons, List.append_assoc]
      exact readString_quoteChar c (ih (Nat.lt_of_succ_lt_succ h))

theorem readValue_quoted {depth : Nat}
    (h : readString (rest.length + 1) rest = some (some content, after)) :
    readValue depth (fuel + 1) ('"' :: rest) = some (.string (String.ofList content), after) := by
  simp [readValue, skipBlank, h]

end Reader

theorem quoteChar_ne_nil (c : Char) : quoteChar c ≠ [] := by
  unfold quoteChar
  split
  case h_8 => split <;> simp
  all_goals simp

theorem length_le_length_flatMap_quoteChar (text : List Char) :
    text.length ≤ (text.flatMap quoteChar).length := by
  induction text with
  | nil => exact Nat.le_refl 0
  | cons c text ih =>
    have hchar := List.length_pos_iff.mpr (quoteChar_ne_nil c)
    rw [List.flatMap_cons, List.length_append, List.length_cons]
    omega

/-- A text is read back from its JSON string. -/
theorem read?_quote (text : List Char) :
    read? (String.ofList (quote text)) = some (.string (String.ofList text)) := by
  have hlength : text.length < (text.flatMap quoteChar ++ ['"']).length + 1 := by
    have hquoted := length_le_length_flatMap_quoteChar text
    rw [List.length_append]
    omega
  have hvalue : Reader.readValue Reader.maxDepth ((quote text).length + 1) (quote text) =
      some (.string (String.ofList text), []) :=
    Reader.readValue_quoted (Reader.readString_quoted hlength [])
  simp [read?, hvalue, Reader.skipBlank]

end Stencil.Json
