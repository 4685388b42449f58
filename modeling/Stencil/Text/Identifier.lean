/-!
# Identifiers

Plain names and sequence indices, the two kinds of text between the dots of a path. Both are
ASCII: a letter or an underscore, then letters, digits and underscores; and decimal digits.
-/

namespace Stencil.Text

def isNameStart (c : Char) : Bool :=
  c.isAlpha || c == '_'

def isNamePart (c : Char) : Bool :=
  c.isAlphanum || c == '_'

def isIdentifier : List Char → Bool
  | [] => false
  | c :: text => isNameStart c && text.all isNamePart

def isIndex (text : List Char) : Bool :=
  !text.isEmpty && text.all Char.isDigit

def digitsValue (digits : List Char) : Nat :=
  digits.foldl (fun n c => 10 * n + (c.toNat - '0'.toNat)) 0

/-- Reads a natural number: decimal digits, leading zeros included, after an optional `+`. -/
def readNat? : List Char → Option Nat
  | '+' :: digits => if isIndex digits then some (digitsValue digits) else none
  | digits => if isIndex digits then some (digitsValue digits) else none

theorem readNat?_of_isIndex {digits : List Char} (h : isIndex digits = true) :
    readNat? digits = some (digitsValue digits) := by
  unfold readNat?
  split
  · next rest =>
    have hp : '+'.isDigit = false := by decide
    simp [isIndex, hp] at h
  · simp [h]

theorem isNameStart_of_isDigit {c : Char} (h : c.isDigit = true) : isNameStart c = false := by
  have h9 : c.val ≤ 57 := by
    simp only [Char.isDigit, Bool.and_eq_true, decide_eq_true_eq] at h
    exact h.2
  have hu : c ≠ '_' := by rintro rfl; exact absurd h9 (by decide)
  have hA : ¬ (65 : UInt32) ≤ c.val := fun h' => absurd (UInt32.le_trans h' h9) (by decide)
  have ha : ¬ (97 : UInt32) ≤ c.val := fun h' => absurd (UInt32.le_trans h' h9) (by decide)
  have hupper : c.isUpper = false := decide_eq_false fun hletter => hA hletter.1
  have hlower : c.isLower = false := Bool.and_eq_false_iff.mpr (.inl (decide_eq_false ha))
  have halpha : c.isAlpha = false := Bool.or_eq_false_iff.mpr ⟨hupper, hlower⟩
  simp [isNameStart, halpha, hu]

theorem isIdentifier_of_isIndex {text : List Char} (h : isIndex text = true) :
    isIdentifier text = false := by
  cases text with
  | nil => rfl
  | cons c text =>
    simp only [isIndex, List.all_cons, Bool.and_eq_true] at h
    simp [isIdentifier, isNameStart_of_isDigit h.2.1]

end Stencil.Text
