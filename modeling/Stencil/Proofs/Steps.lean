import Stencil.Proofs.Words
import Stencil.Value

/-!
# Steps into values

Where the segments of a path lead. By rule a name leads from a mapping to its entry of that name,
a number leads from a sequence to its element of that number, and nothing else leads anywhere. A
lookup follows the rule with one exception, which is exact: a number that meets a mapping with an
entry under its digits leads to that entry.
-/

namespace Stencil

-- ---------------------------------------------------------------------------
-- Numbers
-- ---------------------------------------------------------------------------

namespace Text

/-- The digits of a number. Any zeros may stand before the first digit that counts. -/
def IsNumeral (digits : List Char) (n : Nat) : Prop :=
  isIndex digits = true ∧ Nat.ofDigitChars 10 digits 0 = n

theorem isNumeral_digitsValue {digits : List Char} (h : isIndex digits = true) :
    IsNumeral digits (digitsValue digits) :=
  ⟨h, (digitsValue_eq_ofDigitChars digits).symm⟩

theorem IsNumeral.readNat? {digits : List Char} {n : Nat} (h : IsNumeral digits n) :
    Text.readNat? digits = some n := by
  rw [readNat?_of_isIndex h.1, digitsValue_eq_ofDigitChars, h.2]

theorem readNat?_of_isIdentifier {name : List Char} (h : isIdentifier name = true) :
    readNat? name = none := by
  have hindex : isIndex name = false := by
    cases hn : isIndex name with
    | false => rfl
    | true => simp [isIdentifier_of_isIndex hn] at h
  unfold readNat?
  split
  · have hplus : isNameStart '+' = false := by decide
    simp [isIdentifier, hplus] at h
  · simp [hindex]

end Text

-- ---------------------------------------------------------------------------
-- Steps
-- ---------------------------------------------------------------------------

namespace Value

/-- Where segments lead from a value by the rule of paths. -/
inductive Leads : Value → List String → Value → Prop
  | here {value : Value} : Leads value [] value
  | entry {entries : Entries Value} {name : String} {next found : Value} {rest : List String}
      (hname : Text.isIdentifier name.toList = true) (hentry : entries.get? name = some next)
      (h : Leads next rest found) : Leads (.mapping entries) (name :: rest) found
  | element {items : List Value} {digits : String} {i : Nat} {next found : Value}
      {rest : List String} (hdigits : Text.IsNumeral digits.toList i)
      (hitem : items[i]? = some next) (h : Leads next rest found) :
      Leads (.sequence items) (digits :: rest) found

/-- Segments of which one is a number that meets a mapping with an entry under its digits. The
lookup goes on from that entry. -/
def LeadsByDigits (value : Value) (segments : List String) (found : Value) : Prop :=
  ∃ front digits back entries next, segments = front ++ digits :: back ∧
    value.Leads front (.mapping entries) ∧ Text.isIndex digits.toList = true ∧
      Entries.get? entries digits = some next ∧ next.lookup? back = some found

variable {value next found : Value} {segments : List String} {segment : String}

theorem Leads.lookup? (h : value.Leads segments found) : value.lookup? segments = some found := by
  induction h with
  | here => rfl
  | entry _ hentry _ ih => simp [Value.lookup?, step?, hentry, ih]
  | element hdigits hitem _ ih => simp [Value.lookup?, step?, hdigits.readNat?, hitem, ih]

theorem LeadsByDigits.lookup? (h : value.LeadsByDigits segments found) :
    value.lookup? segments = some found := by
  obtain ⟨front, digits, back, entries, next, rfl, hfront, -, hentry, hback⟩ := h
  rw [lookup?_append, hfront.lookup?]
  simpa [Value.lookup?, step?, hentry] using hback

theorem LeadsByDigits.cons (hstep : ∀ {rest : List String} {last : Value},
    next.Leads rest last → value.Leads (segment :: rest) last)
    (h : next.LeadsByDigits segments found) : value.LeadsByDigits (segment :: segments) found := by
  obtain ⟨front, digits, back, entries, entry, rfl, hfront, hindex, hentry, hback⟩ := h
  exact ⟨segment :: front, digits, back, entries, entry, rfl, hstep hfront, hindex, hentry, hback⟩

theorem Leads.of_append {front back : List String} (h : value.Leads (front ++ back) found) :
    ∃ middle, value.Leads front middle ∧ middle.Leads back found := by
  induction front generalizing value with
  | nil => exact ⟨value, .here, h⟩
  | cons segment front ih =>
    cases h with
    | entry hname hentry h =>
      obtain ⟨middle, hfront, hback⟩ := ih h
      exact ⟨middle, .entry hname hentry hfront, hback⟩
    | element hdigits hitem h =>
      obtain ⟨middle, hfront, hback⟩ := ih h
      exact ⟨middle, .element hdigits hitem hfront, hback⟩

/-- The rule finds nothing where a number meets a mapping. -/
theorem LeadsByDigits.not_leads (h : value.LeadsByDigits segments found) (other : Value) :
    ¬value.Leads segments other := by
  intro hother
  obtain ⟨front, digits, back, entries, next, rfl, hfront, hindex, -, -⟩ := h
  obtain ⟨middle, hmiddle, hrest⟩ := hother.of_append
  have hsame : middle = .mapping entries :=
    Option.some.inj (hmiddle.lookup?.symm.trans hfront.lookup?)
  subst hsame
  cases hrest with
  | entry hname _ _ => simp [Text.isIdentifier_of_isIndex hindex] at hname

theorem step?_eq_some (hsegment : Path.IsSegment segment.toList)
    (h : value.step? segment = some next) :
    (∀ {rest : List String} {last : Value},
      next.Leads rest last → value.Leads (segment :: rest) last) ∨
    ∃ entries, value = .mapping entries ∧ Text.isIndex segment.toList = true ∧
      Entries.get? entries segment = some next := by
  cases value with
  | mapping entries =>
    rcases hsegment with hname | hindex
    · left
      intro rest last hlast
      exact .entry hname h hlast
    · right
      exact ⟨entries, rfl, hindex, h⟩
  | sequence items =>
    left
    intro rest last hlast
    obtain ⟨i, hread, hitem⟩ := Option.bind_eq_some_iff.mp h
    rcases hsegment with hname | hindex
    · rw [Text.readNat?_of_isIdentifier hname] at hread
      cases hread
    · rw [Text.readNat?_of_isIndex hindex] at hread
      cases hread
      exact .element (Text.isNumeral_digitsValue hindex) hitem hlast
  | _ => cases h

theorem lookup?_cases (hsegments : ∀ segment ∈ segments, Path.IsSegment segment.toList)
    (h : value.lookup? segments = some found) :
    value.Leads segments found ∨ value.LeadsByDigits segments found := by
  induction segments generalizing value with
  | nil =>
    cases h
    exact .inl .here
  | cons segment segments ih =>
    obtain ⟨hsegment, hrest⟩ := List.forall_mem_cons.mp hsegments
    obtain ⟨next, hstep, hnext⟩ := Option.bind_eq_some_iff.mp h
    rcases step?_eq_some hsegment hstep with hrule | ⟨entries, rfl, hindex, hentry⟩
    · exact (ih hrest hnext).imp hrule (.cons hrule)
    · right
      exact ⟨[], segment, segments, entries, next, rfl, .here, hindex, hentry, hnext⟩

/-- What a lookup finds along the segments after the head of a path. Where it goes beyond the rule,
the rule finds nothing. -/
theorem lookup?_rest_eq_some_iff {path : Path} (hpath : path.Readable) (value found : Value) :
    (value.lookup? path.rest = some found ↔
      value.Leads path.rest found ∨ value.LeadsByDigits path.rest found) ∧
    (value.LeadsByDigits path.rest found → ∀ other, ¬value.Leads path.rest other) := by
  refine ⟨⟨lookup?_cases (Path.readable_iff.mp hpath).2, ?_⟩, LeadsByDigits.not_leads⟩
  rintro (h | h)
  · exact h.lookup?
  · exact h.lookup?

theorem lookup?_rest_eq_some_iff_digits :
    let value : Value := .sequence [.absent, .mapping [("0", .boolean true)]]
    Path.Readable ⟨"x", ["01", "0"]⟩ ∧ value.lookup? ["01", "0"] = some (.boolean true) ∧
      (value.Leads ["01", "0"] (.boolean true) ∨
        value.LeadsByDigits ["01", "0"] (.boolean true)) := by
  have hpath : Path.Readable ⟨"x", ["01", "0"]⟩ := ⟨"x.01.0".toList, by decide⟩
  intro value
  exact ⟨hpath, rfl, (lookup?_rest_eq_some_iff hpath value _).1.mp rfl⟩

/-- A number leads from a mapping to an entry, which the rule does not allow. -/
theorem digits_lead_from_mapping :
    ¬∀ (path : Path) (value found : Value), path.Readable →
      (value.lookup? path.rest = some found ↔ value.Leads path.rest found) := by
  intro h
  have hpath : Path.Readable ⟨"x", ["0"]⟩ := ⟨"x.0".toList, by decide⟩
  have hleads := (h _ (.mapping [("0", .boolean true)]) (.boolean true) hpath).mp rfl
  cases hleads with
  | entry hname _ _ => exact absurd hname (by decide)

end Value

end Stencil
