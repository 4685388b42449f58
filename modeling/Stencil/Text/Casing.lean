import Stencil.Text.CaseTable
import Stencil.Text.Classes
import Stencil.Text.Fields

/-!
# Upper and lower case

The full Unicode case mappings, of a character and of a text, and the changes of case built on
them. A character may become several. Only lowering a whole text looks at the neighbours of a
character: a capital sigma that ends a word becomes a final sigma. Names with underscores between
their words become names in camel case.
-/

namespace Stencil.Text

def mapByTable (runs : List CaseRun) (special : List (Nat × List Nat)) (c : Char) : List Char :=
  match runs.findSome? (·.map? c.toNat) with
  | some n => [Char.ofNat n]
  | none =>
    match special.lookup c.toNat with
    | some ns => ns.map Char.ofNat
    | none => [c]

def upperChar (c : Char) : List Char :=
  if c.toNat < 0x80 then [c.toUpper] else mapByTable upperRuns upperSpecial c

def lowerChar (c : Char) : List Char :=
  if c.toNat < 0x80 then [c.toLower] else mapByTable lowerRuns lowerSpecial c

def upper (text : List Char) : List Char :=
  text.flatMap upperChar

/-- Whether a cased character comes first once the ignorable ones are passed over. -/
def meetsCased (text : List Char) : Bool :=
  match text.dropWhile isCaseIgnorable with
  | [] => false
  | c :: _ => isCased c

/-- The lowercase of a text that has `before` in front of it, last character first. -/
def lowerFrom (before : List Char) : List Char → List Char
  | [] => []
  | c :: text =>
    let mapped :=
      if c = 'Σ' then
        if meetsCased before && !meetsCased text then ['ς'] else ['σ']
      else
        lowerChar c
    mapped ++ lowerFrom (c :: before) text

def lower (text : List Char) : List Char :=
  lowerFrom [] text

def upperFirst : List Char → List Char
  | [] => []
  | c :: text => upperChar c ++ text

def lowerFirst : List Char → List Char
  | [] => []
  | c :: text => lowerChar c ++ text

def capitalize : List Char → List Char
  | [] => []
  | c :: word => upperChar c ++ word.flatMap lowerChar

/-- The words between underscores, each capitalized and the first lowered again, put together. -/
def joinUnderscored (name : List Char) : List Char :=
  let (first, others) := split (· == '_') name
  lower (capitalize first) ++ others.flatMap capitalize

/-- Whether a character after `previous` begins a word. No character does after a letter or a
number; after an apostrophe none does if `beforePrevious`, which was written before that
apostrophe, is lowercase. -/
def startsWord (previous beforePrevious : Option Char) : Bool :=
  match previous with
  | none => true
  | some p =>
    if isAlphanumeric p then false
    else if p = '\'' then !beforePrevious.any isLowercase
    else true

/-- Capitalizes the words of a text that follows the character `previous`; `written` is what has
been written, last character first. -/
def titleFrom (previous : Option Char) (written : List Char) : List Char → List Char
  | [] => []
  | c :: text =>
    let mapped := if startsWord previous written[1]? then upperChar c else lowerChar c
    mapped ++ titleFrom (some c) (mapped.reverse ++ written) text

def title (text : List Char) : List Char :=
  titleFrom none [] text

theorem upperChar_of_ascii {c : Char} (h : c.toNat < 0x80) : upperChar c = [c.toUpper] := by
  simp [upperChar, h]

theorem lowerChar_of_ascii {c : Char} (h : c.toNat < 0x80) : lowerChar c = [c.toLower] := by
  simp [lowerChar, h]

theorem lowerFrom_of_ascii (before : List Char) {text : List Char}
    (h : ∀ c ∈ text, c.toNat < 0x80) : lowerFrom before text = text.map Char.toLower := by
  induction text generalizing before with
  | nil => rfl
  | cons c text ih =>
    have hc := h c (by simp)
    have hs : c ≠ 'Σ' := by rintro rfl; exact absurd hc (by decide)
    rw [lowerFrom, ih _ fun d hd => h d (by simp [hd])]
    simp [hs, lowerChar_of_ascii hc]

end Stencil.Text
