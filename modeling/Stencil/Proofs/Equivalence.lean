import Mathlib
import Stencil.Value

/-!
# Equivalent values

Values that differ only in the order of entries and in entries that are absent. A name that is not
in a mapping reads as absent, so an entry with that value is as good as none. The elements of a
sequence are counted, so there an absent one stays. Equivalent values are written alike, are alike
in truth, and lead to equivalent values by the same steps.
-/

namespace Stencil

namespace Value

/-- Equal up to the order of entries and to absent entries, at any depth. -/
inductive Equivalent : Value → Value → Prop
  | absent : Equivalent .absent .absent
  | string (text : String) : Equivalent (.string text) (.string text)
  | integer (value : Int) : Equivalent (.integer value) (.integer value)
  | float (value : Float) : Equivalent (.float value) (.float value)
  | boolean (value : Bool) : Equivalent (.boolean value) (.boolean value)
  | sequence {as bs : List Value} (hitems : List.Forall₂ Equivalent as bs) :
    Equivalent (.sequence as) (.sequence bs)
  | mapping {as bs : Entries Value}
    (hentries : ∀ name, Equivalent ((as.get? name).getD .absent) ((bs.get? name).getD .absent)) :
    Equivalent (.mapping as) (.mapping bs)

mutual

@[refl] theorem Equivalent.refl (value : Value) : Equivalent value value := by
  cases value with
  | absent => exact .absent
  | string text => exact .string text
  | integer value => exact .integer value
  | float value => exact .float value
  | boolean value => exact .boolean value
  | sequence items => exact .sequence (Equivalent.refl_items items)
  | mapping entries => exact .mapping (Equivalent.refl_entries entries)

theorem Equivalent.refl_items (items : List Value) : List.Forall₂ Equivalent items items := by
  cases items with
  | nil => exact .nil
  | cons item items => exact .cons (Equivalent.refl item) (Equivalent.refl_items items)

theorem Equivalent.refl_entries (entries : Entries Value) (name : String) :
    Equivalent ((entries.get? name).getD .absent) ((entries.get? name).getD .absent) := by
  cases entries with
  | nil => exact .absent
  | cons entry entries =>
    obtain ⟨other, value⟩ := entry
    rw [Entries.get?_cons]
    split
    · exact Equivalent.refl value
    · exact Equivalent.refl_entries entries name

end

mutual

theorem Equivalent.trans_of (a : Value) {b c : Value} (h : Equivalent a b) (h' : Equivalent b c) :
    Equivalent a c := by
  cases a with
  | sequence as =>
    cases h with
    | sequence hitems =>
      cases h' with
      | sequence hitems' => exact .sequence (Equivalent.trans_items as hitems hitems')
  | mapping as =>
    cases h with
    | mapping hentries =>
      cases h' with
      | mapping hentries' =>
        exact .mapping fun name => Equivalent.trans_entries as name (hentries name) (hentries' name)
  | _ =>
    cases h
    exact h'
termination_by structural a

theorem Equivalent.trans_items (as : List Value) {bs cs : List Value}
    (h : List.Forall₂ Equivalent as bs) (h' : List.Forall₂ Equivalent bs cs) :
    List.Forall₂ Equivalent as cs := by
  cases as with
  | nil =>
    cases h
    exact h'
  | cons a as =>
    cases h with
    | cons hitem hitems =>
      cases h' with
      | cons hitem' hitems' =>
        exact .cons (Equivalent.trans_of a hitem hitem') (Equivalent.trans_items as hitems hitems')
termination_by structural as

theorem Equivalent.trans_entries (as : Entries Value) (name : String) {b c : Value}
    (h : Equivalent ((as.get? name).getD .absent) b) (h' : Equivalent b c) :
    Equivalent ((as.get? name).getD .absent) c := by
  cases as with
  | nil =>
    cases h
    exact h'
  | cons entry as =>
    obtain ⟨other, value⟩ := entry
    rw [Entries.get?_cons] at h ⊢
    split
    · next hname =>
      rw [if_pos hname] at h
      exact Equivalent.trans_of value h h'
    · next hname =>
      rw [if_neg hname] at h
      exact Equivalent.trans_entries as name h h'
termination_by structural as

end

theorem Equivalent.trans {a b c : Value} (h : Equivalent a b) (h' : Equivalent b c) :
    Equivalent a c :=
  Equivalent.trans_of a h h'

-- ---------------------------------------------------------------------------
-- Steps
-- ---------------------------------------------------------------------------

@[simp] theorem lookup_nil (value : Value) : value.lookup [] = value := rfl

@[simp] theorem lookup_absent (segments : List String) : absent.lookup segments = absent := by
  cases segments <;> rfl

theorem lookup_cons (value : Value) (segment : String) (segments : List String) :
    value.lookup (segment :: segments) = ((value.step? segment).getD .absent).lookup segments := by
  cases h : value.step? segment with
  | none =>
    rw [Option.getD_none, lookup_absent, lookup, lookup?, h]
    rfl
  | some next =>
    rw [lookup, lookup?, h]
    rfl

namespace Equivalent

theorem getElem? {as bs : List Value} (h : List.Forall₂ Equivalent as bs) (i : Nat) :
    Equivalent (as[i]?.getD .absent) (bs[i]?.getD .absent) := by
  induction h generalizing i with
  | nil => exact .absent
  | cons hitem _ ih =>
    cases i with
    | zero => exact hitem
    | succ i => exact ih i

variable {a b : Value}

theorem step (h : Equivalent a b) (segment : String) :
    Equivalent ((a.step? segment).getD .absent) ((b.step? segment).getD .absent) := by
  cases h with
  | sequence hitems =>
    cases hread : Text.readNat? segment.toList with
    | none => simpa [step?, hread] using absent
    | some i => simpa [step?, hread] using getElem? hitems i
  | mapping hentries => exact hentries segment
  | _ => exact .absent

theorem lookup (h : Equivalent a b) (segments : List String) :
    Equivalent (a.lookup segments) (b.lookup segments) := by
  induction segments generalizing a b with
  | nil => exact h
  | cons segment segments ih =>
    rw [lookup_cons, lookup_cons]
    exact ih (h.step segment)

theorem output_eq (h : Equivalent a b) : a.output = b.output := by
  cases h <;> rfl

theorem isTruthy_eq (h : Equivalent a b) : a.isTruthy = b.isTruthy := by
  cases h with
  | sequence hitems => cases hitems <;> rfl
  | _ => rfl

end Equivalent

-- ---------------------------------------------------------------------------
-- Entries
-- ---------------------------------------------------------------------------

theorem equivalent_cons_absent {entries : Entries Value} {name : String}
    (h : entries.get? name = none) :
    Equivalent (.mapping ((name, .absent) :: entries)) (.mapping entries) := by
  refine .mapping fun other => ?_
  rw [Entries.get?_cons]
  split
  · next hname =>
    rw [hname, h]
    exact .absent
  · exact Equivalent.refl _

theorem equivalent_cons {a b : Value} (h : Equivalent a b) {as bs : Entries Value}
    (hentries : Equivalent (.mapping as) (.mapping bs)) (name : String) :
    Equivalent (.mapping ((name, a) :: as)) (.mapping ((name, b) :: bs)) := by
  cases hentries with
  | mapping hentries =>
    refine .mapping fun other => ?_
    rw [Entries.get?_cons, Entries.get?_cons]
    by_cases hname : other = name
    · simpa [hname] using h
    · simpa [hname] using hentries other

theorem equivalent_of_perm {as bs : Entries Value} (h : as.Perm bs) (hnames : as.names.Nodup) :
    Equivalent (.mapping as) (.mapping bs) := by
  refine .mapping fun name => ?_
  rw [Entries.get?_of_perm h hnames name]

end Value

end Stencil
