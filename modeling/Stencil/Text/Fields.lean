import Stencil.Text.Blank

/-!
# Fields

Cutting a text at its separators. A text always has a first field, which may be empty; every
separator begins another. The main statement is that a text is its fields put together again with
the separators between them.
-/

namespace Stencil.Text

def split (isSeparator : Char → Bool) : List Char → List Char × List (List Char)
  | [] => ([], [])
  | c :: text =>
    let (first, others) := split isSeparator text
    if isSeparator c then ([], first :: others) else (c :: first, others)

def fields (isSeparator : Char → Bool) (text : List Char) : List (List Char) :=
  (split isSeparator text).1 :: (split isSeparator text).2

/-- The words of a text: its fields between blanks that are not empty. -/
def words (text : List Char) : List (List Char) :=
  (fields isBlank text).filter fun word => !word.isEmpty

def join (separator : Char) (first : List Char) (others : List (List Char)) : List Char :=
  first ++ others.flatMap (separator :: ·)

theorem join_split (separator : Char) (text : List Char) :
    join separator (split (· == separator) text).1 (split (· == separator) text).2 = text := by
  induction text with
  | nil => rfl
  | cons c text ih =>
    by_cases h : c = separator
    · subst h
      simpa [split, join] using ih
    · simpa [split, join, h] using ih

theorem not_isSeparator_of_mem_fields (isSeparator : Char → Bool) (text : List Char) :
    ∀ field ∈ fields isSeparator text, ∀ c ∈ field, isSeparator c = false := by
  induction text with
  | nil => simp [fields, split]
  | cons c text ih =>
    cases h : isSeparator c with
    | true =>
      simp only [fields, split, h, if_true, List.mem_cons] at ih ⊢
      rintro field (rfl | hf)
      · simp
      · exact ih field hf
    | false =>
      simp only [fields, split, h, List.mem_cons] at ih ⊢
      rintro field (rfl | hf)
      · intro d hd
        rcases List.mem_cons.1 hd with rfl | hd
        · exact h
        · exact ih _ (.inl rfl) d hd
      · exact ih field (.inr hf)

end Stencil.Text
