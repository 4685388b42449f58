import Stencil.Proofs.Words
import Stencil.Toml.Quoted

/-!
# Strings in TOML

Reading a string gives back the text that was written, in whichever of the four forms it was, and
stops directly after it. Forms with escapes hold every text. In a form without, the choice of the
form makes sure that the text needs none and does not close the string early.
-/

namespace Stencil.Toml.Quoted

-- ---------------------------------------------------------------------------
-- Escapes
-- ---------------------------------------------------------------------------

variable {c : Char} {code text rest content after : List Char} {fuel : Nat}

theorem readScalar?_two_digits (h : c.toNat < 0x100) (rest : List Char) :
    readScalar? 4 ('0' :: '0' :: (c.toNat / 16).digitChar.toUpper ::
      (c.toNat % 16).digitChar.toUpper :: rest) = some (c, rest) := by
  have hzero : Text.hexValue? '0' = some 0 := rfl
  have hhigh : Text.hexValue? (c.toNat / 16).digitChar.toUpper = some (c.toNat / 16) :=
    Text.hexValue?_toUpper_digitChar (by omega)
  have hlow : Text.hexValue? (c.toNat % 16).digitChar.toUpper = some (c.toNat % 16) :=
    Text.hexValue?_toUpper_digitChar (by omega)
  have hsum : 16 * (c.toNat / 16) + c.toNat % 16 = c.toNat := by omega
  have hvalid : c.toNat.isValidChar := c.valid
  simp [readScalar?, hzero, hhigh, hlow, hsum, hvalid]

theorem readEscape?_escapeControl (h : c.toNat < 0x20 ∨ c.toNat = 0x7F) (rest : List Char) :
    ∃ code, escapeControl c = '\\' :: code ∧ readEscape? (code ++ rest) = some (c, rest) := by
  unfold escapeControl
  split
  · exact ⟨_, rfl, rfl⟩
  · exact ⟨_, rfl, rfl⟩
  · exact ⟨_, rfl, rfl⟩
  · exact ⟨_, rfl, rfl⟩
  · exact ⟨_, rfl, rfl⟩
  · exact ⟨_, rfl, readScalar?_two_digits (by omega) rest⟩

theorem dropBreak?_of_readEscape? (h : readEscape? text = some (c, rest)) :
    dropBreak? (text.dropWhile isSpace) = none := by
  unfold readEscape? at h
  split at h
  all_goals first | rfl | cases h

-- ---------------------------------------------------------------------------
-- One pair of quotes
-- ---------------------------------------------------------------------------

theorem readBasic_escaped (code : List Char)
    (hcode : readEscape? (code ++ rest) = some (c, rest))
    (h : readBasic fuel rest = some (content, after)) :
    readBasic (fuel + 1) ('\\' :: (code ++ rest)) = some (c :: content, after) := by
  simp [readBasic, hcode, h]

theorem readBasic_plain (hplain : isPlain c = true) (hquote : c ≠ '"') (hescape : c ≠ '\\')
    (h : readBasic fuel rest = some (content, after)) :
    readBasic (fuel + 1) (c :: rest) = some (c :: content, after) := by
  rw [readBasic, if_pos hplain, h]
  · rfl
  · exact hquote
  · exact hescape

theorem isPlain_of_not_control (h : ¬(c.toNat < 0x20 ∨ c.toNat = 0x7F)) : isPlain c = true := by
  simp only [isPlain, Bool.or_eq_true, Bool.and_eq_true, decide_eq_true_eq, bne_iff_ne]
  right
  omega

theorem readBasic_escape (quotes : Nat) (h : text.length < fuel) :
    readBasic fuel (escape false 0 quotes text ++ '"' :: rest) = some (text, rest) := by
  induction text generalizing fuel quotes with
  | nil =>
    cases fuel with
    | zero => contradiction
    | succ fuel => simp [escape, readBasic]
  | cons c text ih =>
    cases fuel with
    | zero => contradiction
    | succ fuel =>
      have hrest : readBasic fuel (escape false 0 0 text ++ '"' :: rest) = some (text, rest) :=
        ih 0 (Nat.lt_of_succ_lt_succ h)
      simp only [escape]
      split
      · next hquote =>
        subst hquote
        simpa using readBasic_escaped ['"'] rfl hrest
      split
      · next hescape =>
        subst hescape
        simpa using readBasic_escaped ['\\'] rfl hrest
      split
      · next hbreak => simp at hbreak
      split
      · next hcontrol =>
        obtain ⟨code, hcode, hread⟩ := readEscape?_escapeControl (by simpa using hcontrol)
          (escape false 0 0 text ++ '"' :: rest)
        rw [hcode]
        simpa using readBasic_escaped code hread hrest
      · next hquote hescape _ hcontrol =>
        have hplain : isPlain c = true := isPlain_of_not_control (by simpa using hcontrol)
        exact readBasic_plain hplain hquote hescape hrest

-- ---------------------------------------------------------------------------
-- Three quotes
-- ---------------------------------------------------------------------------

theorem readLongBasic_escaped (code : List Char)
    (hcode : readEscape? (code ++ rest) = some (c, rest))
    (h : readLongBasic fuel rest = some (content, after)) :
    readLongBasic (fuel + 1) ('\\' :: (code ++ rest)) = some (c :: content, after) := by
  simp [readLongBasic, dropBreak?_of_readEscape? hcode, hcode, h]

theorem readLongBasic_break (h : readLongBasic fuel rest = some (content, after)) :
    readLongBasic (fuel + 1) ('\n' :: rest) = some ('\n' :: content, after) := by
  simp [readLongBasic, h]

/-- A quote stands for itself unless two more of them close the string. -/
theorem readLongBasic_plain (hplain : isPlain c = true) (hquote : c = '"' → ¬['"', '"'] <+: rest)
    (hescape : c ≠ '\\') (h : readLongBasic fuel rest = some (content, after)) :
    readLongBasic (fuel + 1) (c :: rest) = some (c :: content, after) := by
  have hopen : ∀ others, c = '"' → rest = '"' :: '"' :: others → False :=
    fun others hc hrest => hquote hc ⟨others, hrest.symm⟩
  rw [readLongBasic, if_pos hplain, h]
  · rfl
  · exact fun _ => hopen _
  · exact fun _ => hopen _
  · exact hopen
  · exact hescape
  · exact Text.ne_of_class hplain (by decide)
  · exact fun _ hreturn => absurd hreturn (Text.ne_of_class hplain (by decide))

/-- The quotes that close a string, and one or two that stand before them for themselves. -/
theorem readLongBasic_close (quotes : Nat) (hrest : rest.head? ≠ some '"') (h : quotes ≤ 2) :
    readLongBasic (fuel + 1) (List.replicate quotes '"' ++ '"' :: '"' :: '"' :: rest) =
      some (List.replicate quotes '"', rest) := by
  have hnot : ∀ others, rest ≠ '"' :: others := by
    rintro others rfl
    exact hrest rfl
  interval_cases quotes <;> simp [List.replicate, readLongBasic, hnot]

theorem exists_quote_of_escape {keepBreaks : Bool} {maxQuotes quotes : Nat} {others : List Char}
    (hne : text ≠ []) (h : escape keepBreaks maxQuotes quotes text ++ rest = '"' :: others) :
    ∃ next, text = '"' :: next ∧ quotes < maxQuotes ∧
      escape keepBreaks maxQuotes (quotes + 1) next ++ rest = others := by
  obtain ⟨c, next, rfl⟩ := List.exists_cons_of_ne_nil hne
  simp only [escape] at h
  split at h
  · next hquote =>
    subst hquote
    split at h
    · next hfew => exact ⟨next, rfl, hfew, (List.cons.inj h).2⟩
    · simp at h
  split at h
  · simp at h
  split at h
  · next hbreak => simp_all
  split at h
  · next hcontrol =>
    obtain ⟨code, hcode, -⟩ := readEscape?_escapeControl (by simpa using hcontrol) []
    simp [hcode] at h
  · next hquote _ _ _ => exact absurd (List.cons.inj h).1 hquote

/-- After a quote of the text two more come first only if the string ends there. -/
theorem not_quotes_prefix_escape {quotes : Nat} (rest : List Char) (hne : text ≠ [])
    (hone : text = ['"'] → 1 < quotes) (hquotes : 0 < quotes) :
    ¬['"', '"'] <+: escape true 2 quotes text ++ rest := by
  rintro ⟨others, h⟩
  obtain ⟨next, rfl, hfew, hnext⟩ := exists_quote_of_escape hne h.symm
  by_cases hend : next = []
  · subst hend
    have := hone rfl
    omega
  · obtain ⟨_, _, hmore, _⟩ := exists_quote_of_escape hend hnext
    omega

theorem readLongBasic_escape (quotes : Nat) (hrest : rest.head? ≠ some '"')
    (h : text.length < fuel) :
    readLongBasic fuel (escape true 2 quotes text ++ '"' :: '"' :: '"' :: rest) =
      some (text, rest) := by
  induction text generalizing fuel quotes with
  | nil =>
    cases fuel with
    | zero => contradiction
    | succ fuel => simpa [escape] using readLongBasic_close 0 hrest (by decide)
  | cons c text ih =>
    cases fuel with
    | zero => contradiction
    | succ fuel =>
      have hback : ∀ quotes, readLongBasic fuel (escape true 2 quotes text ++
          '"' :: '"' :: '"' :: rest) = some (text, rest) :=
        fun quotes => ih quotes (Nat.lt_of_succ_lt_succ h)
      simp only [escape]
      split
      · next hquote =>
        subst hquote
        split
        · next hfew =>
          by_cases hnone : text = []
          · subst hnone
            simpa [escape] using readLongBasic_close 1 hrest (by decide)
          by_cases hone : text = ['"'] ∧ quotes = 0
          · obtain ⟨rfl, rfl⟩ := hone
            simpa [escape] using readLongBasic_close 2 hrest (by decide)
          · have hopen := not_quotes_prefix_escape ('"' :: '"' :: '"' :: rest) hnone
              (show text = ['"'] → 1 < quotes + 1 by grind) (by omega)
            exact readLongBasic_plain (by decide) (fun _ => hopen) (by decide) (hback (quotes + 1))
        · simpa using readLongBasic_escaped ['"'] rfl (hback 0)
      split
      · next hescape =>
        subst hescape
        simpa using readLongBasic_escaped ['\\'] rfl (hback 0)
      split
      · next hbreak =>
        obtain rfl : c = '\n' := by simpa using hbreak
        exact readLongBasic_break (hback 0)
      split
      · next hcontrol =>
        obtain ⟨code, hcode, hread⟩ := readEscape?_escapeControl (by simpa using hcontrol)
          (escape true 2 0 text ++ '"' :: '"' :: '"' :: rest)
        rw [hcode]
        simpa using readLongBasic_escaped code hread (hback 0)
      · next hquote hescape _ hcontrol =>
        have hplain : isPlain c = true := isPlain_of_not_control (by simpa using hcontrol)
        exact readLongBasic_plain hplain (fun hc => absurd hc hquote) hescape (hback 0)

-- ---------------------------------------------------------------------------
-- Apostrophes
-- ---------------------------------------------------------------------------

theorem readLiteral_append (h : ∀ c ∈ text, isPlain c = true ∧ c ≠ '\'') :
    readLiteral (text ++ '\'' :: rest) = some (text, rest) := by
  induction text with
  | nil => rfl
  | cons c text ih =>
    obtain ⟨⟨hplain, hquote⟩, htext⟩ := List.forall_mem_cons.mp h
    rw [List.cons_append, readLiteral, if_pos hplain, ih htext]
    · rfl
    · exact hquote

theorem readLongLiteral_plain (hplain : isPlain c = true)
    (hquote : c = '\'' → ¬['\'', '\''] <+: rest)
    (h : readLongLiteral rest = some (content, after)) :
    readLongLiteral (c :: rest) = some (c :: content, after) := by
  have hopen : ∀ others, c = '\'' → rest = '\'' :: '\'' :: others → False :=
    fun others hc hrest => hquote hc ⟨others, hrest.symm⟩
  rw [readLongLiteral, if_pos hplain, h]
  · rfl
  · exact fun _ => hopen _
  · exact fun _ => hopen _
  · exact hopen
  · exact Text.ne_of_class hplain (by decide)
  · exact fun _ hreturn => absurd hreturn (Text.ne_of_class hplain (by decide))

theorem readLongLiteral_close (quotes : Nat) (hrest : rest.head? ≠ some '\'') (h : quotes ≤ 2) :
    readLongLiteral (List.replicate quotes '\'' ++ '\'' :: '\'' :: '\'' :: rest) =
      some (List.replicate quotes '\'', rest) := by
  have hnot : ∀ others, rest ≠ '\'' :: others := by
    rintro others rfl
    exact hrest rfl
  interval_cases quotes <;> simp [List.replicate, readLongLiteral, hnot]

theorem not_apostrophes_prefix (rest : List Char) (hnone : text ≠ []) (hone : text ≠ ['\''])
    (hrun : ¬List.replicate 3 '\'' <:+: '\'' :: text) : ¬['\'', '\''] <+: text ++ rest := by
  rintro ⟨others, h⟩
  match text with
  | [] => exact hnone rfl
  | [d] =>
    obtain ⟨rfl, -⟩ := List.cons.inj h
    exact hone rfl
  | d :: e :: text =>
    simp only [List.cons_append, List.nil_append, List.cons.injEq] at h
    obtain ⟨rfl, rfl, -⟩ := h
    exact hrun ⟨[], text, rfl⟩

theorem readLongLiteral_append (hplain : ∀ c ∈ text, isPlain c = true ∨ c = '\n')
    (hrun : ¬List.replicate 3 '\'' <:+: text) (hrest : rest.head? ≠ some '\'') :
    readLongLiteral (text ++ '\'' :: '\'' :: '\'' :: rest) = some (text, rest) := by
  induction text with
  | nil => exact readLongLiteral_close 0 hrest (by decide)
  | cons c text ih =>
    obtain ⟨hc, htext⟩ := List.forall_mem_cons.mp hplain
    have hback : readLongLiteral (text ++ '\'' :: '\'' :: '\'' :: rest) = some (text, rest) :=
      ih htext fun hinfix => hrun (List.infix_cons hinfix)
    rcases hc with hc | rfl
    · by_cases hquote : c = '\''
      · subst hquote
        by_cases hnone : text = []
        · subst hnone
          exact readLongLiteral_close 1 hrest (by decide)
        by_cases hone : text = ['\'']
        · subst hone
          exact readLongLiteral_close 2 hrest (by decide)
        · have hopen := not_apostrophes_prefix ('\'' :: '\'' :: '\'' :: rest) hnone hone hrun
          exact readLongLiteral_plain hc (fun _ => hopen) hback
      · exact readLongLiteral_plain hc (fun h => absurd h hquote) hback
    · simp [readLongLiteral, hback]

-- ---------------------------------------------------------------------------
-- The choice of the form
-- ---------------------------------------------------------------------------

theorem le_longestRun_go (before : Nat) (text : List Char) :
    before ≤ longestRun.go c before text := by
  induction text generalizing before with
  | nil => exact Nat.le_refl before
  | cons d text ih =>
    rw [longestRun.go]
    split
    · exact Nat.le_of_succ_le (ih (before + 1))
    · exact Nat.le_max_left ..

theorem longestRun_go_mono {before after : Nat} (h : before ≤ after) (text : List Char) :
    longestRun.go c before text ≤ longestRun.go c after text := by
  induction text generalizing before after with
  | nil => exact h
  | cons d text ih =>
    rw [longestRun.go, longestRun.go]
    split
    · exact ih (Nat.succ_le_succ h)
    · omega

theorem add_le_longestRun_go (before n : Nat) (text : List Char) :
    before + n ≤ longestRun.go c before (List.replicate n c ++ text) := by
  induction n generalizing before with
  | zero => exact le_longestRun_go before text
  | succ n ih =>
    rw [List.replicate_succ, List.cons_append, longestRun.go, if_pos rfl]
    have := ih (before + 1)
    omega

theorem longestRun_go_append (before : Nat) (front text : List Char) :
    longestRun.go c 0 text ≤ longestRun.go c before (front ++ text) := by
  induction front generalizing before with
  | nil => exact longestRun_go_mono (Nat.zero_le before) text
  | cons d front ih =>
    rw [List.cons_append, longestRun.go]
    split
    · exact ih (before + 1)
    · exact (ih 0).trans (Nat.le_max_right ..)

theorem le_longestRun_of_infix {n : Nat} (h : List.replicate n c <:+: text) :
    n ≤ longestRun c text := by
  obtain ⟨front, back, rfl⟩ := h
  rw [List.append_assoc]
  calc n
    _ = 0 + n := (Nat.zero_add n).symm
    _ ≤ longestRun.go c 0 (List.replicate n c ++ back) := add_le_longestRun_go 0 n back
    _ ≤ longestRun c (front ++ (List.replicate n c ++ back)) := longestRun_go_append 0 front _

theorem not_mem_of_longestRun (h : longestRun c text = 0) : c ∉ text := by
  intro hmem
  obtain ⟨front, back, rfl⟩ := List.append_of_mem hmem
  have hrun : 1 ≤ longestRun c (front ++ c :: back) :=
    le_longestRun_of_infix ⟨front, back, by simp⟩
  omega

theorem isPlain_of_isControl (h : isControl c = false) : isPlain c = true ∨ c = '\n' := by
  by_cases hbreak : c = '\n'
  · exact .inr hbreak
  by_cases htab : c = '\t'
  · subst htab
    exact .inl rfl
  · left
    apply isPlain_of_not_control
    simp [isControl, hbreak, htab] at h
    omega

/-- Between single apostrophes stands a text of plain characters other than these. -/
theorem plain_of_formOf_literal (h : formOf text = .literal) :
    text ≠ [] ∧ ∀ c ∈ text, isPlain c = true ∧ c ≠ '\'' := by
  refine ⟨?_, ?_⟩
  · rintro rfl
    cases h
  · simp only [formOf] at h
    split at h
    · cases h
    split at h
    · next hform =>
      simp only [Bool.and_eq_true, Bool.not_eq_true', List.any_eq_false, decide_eq_true_eq] at hform
      obtain ⟨⟨hcontrol, hrun⟩, hbreak⟩ := hform
      intro c hc
      refine ⟨(isPlain_of_isControl (by simpa using hcontrol c hc)).resolve_right ?_, ?_⟩
      · rintro rfl
        simp [hc] at hbreak
      · rintro rfl
        exact not_mem_of_longestRun hrun hc
    all_goals grind

theorem plain_of_formOf_longLiteral (h : formOf text = .longLiteral) :
    (∀ c ∈ text, isPlain c = true ∨ c = '\n') ∧ ¬List.replicate 3 '\'' <:+: text := by
  simp only [formOf] at h
  split at h
  · cases h
  split at h
  · cases h
  split at h
  · cases h
  split at h
  · next hform =>
    simp only [Bool.and_eq_true, Bool.not_eq_true', List.any_eq_false, decide_eq_true_eq] at hform
    obtain ⟨hcontrol, hrun⟩ := hform
    refine ⟨fun c hc => isPlain_of_isControl (by simpa using hcontrol c hc), fun hinfix => ?_⟩
    have := le_longestRun_of_infix hinfix
    omega
  · grind

theorem length_le_length_escape (keepBreaks : Bool) (maxQuotes quotes : Nat) (text : List Char) :
    text.length ≤ (escape keepBreaks maxQuotes quotes text).length := by
  induction text generalizing quotes with
  | nil => exact Nat.le_refl 0
  | cons c text ih =>
    have h0 := ih 0
    have h1 := ih (quotes + 1)
    simp only [escape]
    split
    · split <;> simp <;> omega
    split
    · simp; omega
    split
    · simpa using h0
    split
    · next hcontrol =>
      obtain ⟨code, hcode, -⟩ := readEscape?_escapeControl (by simpa using hcontrol) []
      simp [hcode]
      omega
    · simpa using h0

-- ---------------------------------------------------------------------------
-- Strings
-- ---------------------------------------------------------------------------

theorem exists_encode (text : List Char) :
    ∃ quote code, encode text = quote :: code ∧ (quote = '"' ∨ quote = '\'') := by
  simp only [encode]
  cases formOf text <;> split <;> simp [Form.delimiter]

theorem decode_quote (h : ¬['"', '"'] <+: rest) :
    decode ('"' :: rest) = readBasic (rest.length + 1) rest := by
  rw [decode]
  exact fun others hrest => h ⟨others, hrest.symm⟩

theorem decode_apostrophe (h : ¬['\'', '\''] <+: rest) :
    decode ('\'' :: rest) = readLiteral rest := by
  rw [decode]
  exact fun others hrest => h ⟨others, hrest.symm⟩

theorem dropBreak?_cons (hbreak : c ≠ '\n') (hreturn : c ≠ '\r') (rest : List Char) :
    dropBreak? (c :: rest) = none := by
  unfold dropBreak?
  split
  · next h => exact absurd (List.cons.inj h).1 hbreak
  · next h => exact absurd (List.cons.inj h).1 hreturn
  · rfl

theorem dropBreak?_escape {maxQuotes quotes : Nat} (h : '\n' ∉ text) :
    dropBreak? (escape true maxQuotes quotes text ++ '"' :: rest) = none := by
  cases text with
  | nil => rfl
  | cons c text =>
    have hbreak : c ≠ '\n' := fun hc => h (hc ▸ List.mem_cons_self)
    simp only [escape]
    split
    · next hquote =>
      subst hquote
      split <;> rfl
    split
    · rfl
    split
    · simp_all
    split
    · next hcontrol =>
      obtain ⟨code, hcode, -⟩ := readEscape?_escapeControl (by simpa using hcontrol) []
      rw [hcode]
      rfl
    · next hcontrol =>
      have hreturn : c ≠ '\r' := by
        rintro rfl
        simp at hcontrol
      exact dropBreak?_cons hbreak hreturn _

theorem dropBreak?_of_plain {d : Char} (h : ∀ c ∈ text, isPlain c = true) (hd : isPlain d = true) :
    dropBreak? (text ++ d :: rest) = none := by
  have hne : ∀ c, isPlain c = true → c ≠ '\n' ∧ c ≠ '\r' := by
    intro c hc
    exact ⟨Text.ne_of_class hc (by decide), Text.ne_of_class hc (by decide)⟩
  cases text with
  | nil => exact dropBreak?_cons (hne d hd).1 (hne d hd).2 rest
  | cons c text =>
    obtain ⟨hbreak, hreturn⟩ := hne c (h c List.mem_cons_self)
    exact dropBreak?_cons hbreak hreturn _

/-- A text is read back from the string that is written for it, whatever follows. -/
theorem decode_encode (text : List Char) (hquote : rest.head? ≠ some '"')
    (hapostrophe : rest.head? ≠ some '\'') : decode (encode text ++ rest) = some (text, rest) := by
  cases hform : formOf text with
  | basic =>
    have hopen : ¬['"', '"'] <+: escape false 0 0 text ++ '"' :: rest := by
      rintro ⟨others, h⟩
      by_cases hnone : text = []
      · subst hnone
        simp [escape] at h
        simp [← h] at hquote
      · obtain ⟨_, _, hmore, _⟩ := exists_quote_of_escape hnone h.symm
        omega
    have hlength := length_le_length_escape false 0 0 text
    calc decode (encode text ++ rest)
      _ = decode ('"' :: (escape false 0 0 text ++ '"' :: rest)) := by
        simp [encode, hform, Form.delimiter, body]
      _ = some (text, rest) := by
        rw [decode_quote hopen, readBasic_escape 0 (by simp; omega)]
  | literal =>
    obtain ⟨hnone, hplain⟩ := plain_of_formOf_literal hform
    have hopen : ¬['\'', '\''] <+: text ++ '\'' :: rest := by
      rintro ⟨others, h⟩
      obtain ⟨c, next, rfl⟩ := List.exists_cons_of_ne_nil hnone
      exact (hplain c List.mem_cons_self).2 (List.cons.inj h).1.symm
    calc decode (encode text ++ rest)
      _ = decode ('\'' :: (text ++ '\'' :: rest)) := by
        simp [encode, hform, Form.delimiter, body]
      _ = some (text, rest) := by
        rw [decode_apostrophe hopen, readLiteral_append hplain]
  | longBasic =>
    have hlength := length_le_length_escape true 2 0 text
    by_cases hbreak : '\n' ∈ text
    · calc decode (encode text ++ rest)
        _ = decode ('"' :: '"' :: '"' :: '\n' ::
            (escape true 2 0 text ++ '"' :: '"' :: '"' :: rest)) := by
          simp [encode, hform, Form.delimiter, body, hbreak]
        _ = some (text, rest) := by
          simp only [decode, dropBreak?, Option.getD_some]
          rw [readLongBasic_escape 0 hquote (by simp; omega)]
    · calc decode (encode text ++ rest)
        _ = decode ('"' :: '"' :: '"' :: (escape true 2 0 text ++ '"' :: '"' :: '"' :: rest)) := by
          simp [encode, hform, Form.delimiter, body, hbreak]
        _ = some (text, rest) := by
          simp only [decode, dropBreak?_escape hbreak, Option.getD_none]
          rw [readLongBasic_escape 0 hquote (by simp; omega)]
  | longLiteral =>
    obtain ⟨hplain, hrun⟩ := plain_of_formOf_longLiteral hform
    by_cases hbreak : '\n' ∈ text
    · calc decode (encode text ++ rest)
        _ = decode ('\'' :: '\'' :: '\'' :: '\n' :: (text ++ '\'' :: '\'' :: '\'' :: rest)) := by
          simp [encode, hform, Form.delimiter, body, hbreak]
        _ = some (text, rest) := by
          simp only [decode, dropBreak?, Option.getD_some]
          rw [readLongLiteral_append hplain hrun hapostrophe]
    · have hall : ∀ c ∈ text, isPlain c = true := by
        intro c hc
        exact (hplain c hc).resolve_right fun hne => hbreak (hne ▸ hc)
      calc decode (encode text ++ rest)
        _ = decode ('\'' :: '\'' :: '\'' :: (text ++ '\'' :: '\'' :: '\'' :: rest)) := by
          simp [encode, hform, Form.delimiter, body, hbreak]
        _ = some (text, rest) := by
          simp only [decode, dropBreak?_of_plain hall (show isPlain '\'' = true by decide),
            Option.getD_none]
          rw [readLongLiteral_append hplain hrun hapostrophe]

end Stencil.Toml.Quoted
