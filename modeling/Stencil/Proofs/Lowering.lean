import Stencil.Proofs.ExposedNames

/-!
# Lowercase texts

What lowering does to characters outside ASCII hardly ever gives an ASCII character: only the sign
for kelvin becomes a `k`, and the capital I with a dot an `i` with a dot to it. So whatever ASCII
character a lowered text has comes from an ASCII character, these two letters apart.
-/

namespace Stencil.Text

variable {c d : Char} {text before : List Char}

-- ---------------------------------------------------------------------------
-- Characters
-- ---------------------------------------------------------------------------

def CaseRun.StaysOutside (run : CaseRun) : Prop :=
  0x80 ≤ run.target ∧ run.target + (run.last - run.first) < 0x110000 ∧
    (run.target + (run.last - run.first) < 0xD800 ∨ 0xDFFF < run.target)

instance (run : CaseRun) : Decidable run.StaysOutside := by
  unfold CaseRun.StaysOutside
  infer_instance

theorem staysOutside_of_mem_lowerRuns :
    ∀ run ∈ lowerRuns, run.StaysOutside ∨ run.first = run.last ∧ run.target = 'k'.toNat := by
  decide +kernel

theorem CaseRun.exists_of_map? {run : CaseRun} {n m : Nat} (h : run.map? n = some m) :
    run.target ≤ m ∧ m ≤ run.target + (run.last - run.first) := by
  simp only [map?, Option.ite_none_right_eq_some, Bool.and_eq_true, decide_eq_true_eq,
    Option.some.injEq] at h
  omega

theorem CaseRun.StaysOutside.le_toNat_ofNat {run : CaseRun} {n m : Nat} (hrun : run.StaysOutside)
    (h : run.map? n = some m) : 0x80 ≤ (Char.ofNat m).toNat := by
  obtain ⟨hlow, hhigh⟩ := exists_of_map? h
  obtain ⟨htarget, hlast, hsurrogate⟩ := hrun
  have hvalid : m.isValidChar := by
    unfold Nat.isValidChar
    omega
  rw [Char.toNat_ofNat, if_pos hvalid]
  omega

/-- A character outside ASCII is lowered to one outside ASCII, with two exceptions. -/
theorem lowerChar_cases (h : 0x80 ≤ c.toNat) :
    lowerChar c = ['k'] ∨ lowerChar c = ['i', '\u0307'] ∨
      ∃ d, lowerChar c = [d] ∧ 0x80 ≤ d.toNat := by
  rw [lowerChar, if_neg (by omega), mapByTable]
  cases hrun : lowerRuns.findSome? (·.map? c.toNat) with
  | some m =>
    obtain ⟨run, hmem, hmap⟩ := List.exists_of_findSome?_eq_some hrun
    rcases staysOutside_of_mem_lowerRuns run hmem with houtside | ⟨hsingle, htarget⟩
    · exact .inr (.inr ⟨_, rfl, houtside.le_toNat_ofNat hmap⟩)
    · obtain ⟨hlow, hhigh⟩ := CaseRun.exists_of_map? hmap
      have hm : m = 'k'.toNat := by omega
      exact .inl (by simp [hm])
  | none =>
    by_cases hspecial : c.toNat = 0x130
    · exact .inr (.inl (by simp [lowerSpecial, hspecial]))
    · have hlookup : lowerSpecial.lookup c.toNat = none := by
        simp [lowerSpecial, List.lookup_cons, beq_false_of_ne hspecial]
      exact .inr (.inr ⟨c, by simp [hlookup], h⟩)

-- ---------------------------------------------------------------------------
-- Texts
-- ---------------------------------------------------------------------------

def lowerIn (before : List Char) (c : Char) (text : List Char) : List Char :=
  if c = 'Σ' then if meetsCased before && !meetsCased text then ['ς'] else ['σ'] else lowerChar c

theorem lowerFrom_cons (before : List Char) (c : Char) (text : List Char) :
    lowerFrom before (c :: text) = lowerIn before c text ++ lowerFrom (c :: before) text := rfl

theorem lowerIn_of_ascii (h : c.toNat < 0x80) : lowerIn before c text = [c.toLower] := by
  have hne : c ≠ 'Σ' := by
    rintro rfl
    exact absurd h (by decide)
  rw [lowerIn, if_neg hne, lowerChar_of_ascii h]

theorem lowerIn_cases (before text : List Char) (h : 0x80 ≤ c.toNat) :
    lowerIn before c text = ['k'] ∨ lowerIn before c text = ['i', '\u0307'] ∨
      ∃ d, lowerIn before c text = [d] ∧ 0x80 ≤ d.toNat := by
  unfold lowerIn
  split
  · refine .inr (.inr ?_)
    split
    · exact ⟨_, rfl, by decide⟩
    · exact ⟨_, rfl, by decide⟩
  · exact lowerChar_cases h

theorem mem_lowerFrom_ascii (h : d ∈ lowerFrom before text) (hd : d.toNat < 0x80) :
    d = 'k' ∨ d = 'i' ∨ ∃ c ∈ text, c.toNat < 0x80 ∧ d = c.toLower := by
  induction text generalizing before with
  | nil => simp [lowerFrom] at h
  | cons c text ih =>
    rw [lowerFrom_cons, List.mem_append] at h
    rcases h with h | h
    · by_cases hc : c.toNat < 0x80
      · rw [lowerIn_of_ascii hc, List.mem_singleton] at h
        exact .inr (.inr ⟨c, List.mem_cons_self, hc, h⟩)
      · have houtside : 0x80 ≤ c.toNat := by omega
        rcases lowerIn_cases before text houtside with heq | heq | ⟨e, heq, he⟩
        · exact .inl (by simpa [heq] using h)
        · rw [heq] at h
          rcases List.mem_cons.mp h with rfl | h
          · exact .inr (.inl rfl)
          · rw [List.mem_singleton.mp h] at hd
            exact absurd hd (by decide)
        · rw [heq, List.mem_singleton] at h
          subst h
          omega
    · rcases ih h with hk | hi | ⟨c', hmem, hc'⟩
      · exact .inl hk
      · exact .inr (.inl hi)
      · exact .inr (.inr ⟨c', List.mem_cons_of_mem _ hmem, hc'⟩)

/-- Lowering brings no ASCII character into a text but letters. -/
theorem not_mem_lowerFrom (hd : d.toNat < 0x80) (halpha : d.isAlpha = false) (h : d ∉ text) :
    d ∉ lowerFrom before text := by
  intro hmem
  rcases mem_lowerFrom_ascii hmem hd with rfl | rfl | ⟨c, hc, hascii, rfl⟩
  · exact absurd halpha (by decide)
  · exact absurd halpha (by decide)
  · have hsame : c.toLower = c :=
      forall_ascii (p := fun c => c.toLower.isAlpha = false → c.toLower = c) (by decide +kernel)
        hascii halpha
    rw [hsame] at h
    exact h hc

theorem forall_ascii_of_lowerFrom
    (h : ∀ d ∈ lowerFrom before text, d.toNat < 0x80 ∧ d ≠ 'k') : ∀ c ∈ text, c.toNat < 0x80 := by
  induction text generalizing before with
  | nil => simp
  | cons c text ih =>
    rw [lowerFrom_cons] at h
    obtain ⟨hfirst, hothers⟩ := List.forall_mem_append.mp h
    refine List.forall_mem_cons.mpr ⟨?_, ih hothers⟩
    by_contra hc
    have houtside : 0x80 ≤ c.toNat := by omega
    rcases lowerIn_cases before text houtside with heq | heq | ⟨d, heq, hd⟩
    · exact (hfirst 'k' (by simp [heq])).2 rfl
    · exact absurd (hfirst '\u0307' (by simp [heq])).1 (by decide)
    · have hascii := (hfirst d (by simp [heq])).1
      omega

theorem not_isUpper_of_mem_lower (h : d ∈ lower text) (hd : d.toNat < 0x80) :
    d.isUpper = false := by
  rcases mem_lowerFrom_ascii h hd with rfl | rfl | ⟨c, -, hc, rfl⟩
  · decide
  · decide
  · exact forall_ascii (p := fun c => c.toLower.isUpper = false) (by decide +kernel) hc

/-- What has been lowered once is a given ASCII text without `k` if it is when lowered again. -/
theorem eq_of_lower_eq {word : List Char} (hword : ∀ c ∈ word, c.toNat < 0x80 ∧ c ≠ 'k')
    (htext : ∀ c ∈ text, c.toNat < 0x80 → c.isUpper = false) (h : lower text = word) :
    text = word := by
  have hascii : ∀ c ∈ text, c.toNat < 0x80 := forall_ascii_of_lowerFrom (h ▸ hword)
  have hmap : text.map Char.toLower = text.map id := by
    refine List.map_congr_left fun c hc => ?_
    exact (toLower_eq_self_iff (hascii c hc)).mpr (htext c hc (hascii c hc))
  rw [← h, lower, lowerFrom_of_ascii [] hascii, hmap, List.map_id]

end Stencil.Text
