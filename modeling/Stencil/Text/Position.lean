/-!
# Positions

Places in a text. An offset counts the bytes of the UTF-8 form; a position counts lines and, in
its line, characters, both from one. `Position.of` turns the first into the second. An offset past
the end means the end, and an offset inside a character means the start of that character.
-/

namespace Stencil.Text

def byteSize : List Char → Nat
  | [] => 0
  | c :: text => c.utf8Size + byteSize text

@[simp] theorem byteSize_nil : byteSize [] = 0 := rfl

@[simp] theorem byteSize_cons (c : Char) (text : List Char) :
    byteSize (c :: text) = c.utf8Size + byteSize text := rfl

@[simp] theorem byteSize_append (front back : List Char) :
    byteSize (front ++ back) = byteSize front + byteSize back := by
  induction front with
  | nil => simp
  | cons c front ih => simp [ih, Nat.add_assoc]

/-- A line and a column, both counted from one. -/
structure Position where
  line : Nat
  column : Nat
  deriving DecidableEq, Repr

namespace Position

def start : Position := ⟨1, 1⟩

def next (position : Position) (c : Char) : Position :=
  if c = '\n' then ⟨position.line + 1, 1⟩ else ⟨position.line, position.column + 1⟩

/-- The position reached from `position` by the characters of `text` that end within `offset`
bytes. -/
def advance (position : Position) : List Char → Nat → Position
  | [], _ => position
  | c :: text, offset =>
    if c.utf8Size ≤ offset then (position.next c).advance text (offset - c.utf8Size) else position

def of (text : List Char) (offset : Nat) : Position :=
  start.advance text offset

/-- At a character boundary the position is that after all characters before it. -/
theorem advance_append (position : Position) (front back : List Char) :
    position.advance (front ++ back) (byteSize front) = front.foldl next position := by
  induction front generalizing position with
  | nil =>
    cases back with
    | nil => rfl
    | cons c back => simp [advance, Nat.not_le.2 c.utf8Size_pos]
  | cons c front ih => simpa [advance, Nat.add_sub_cancel_left] using ih (position.next c)

end Position

end Stencil.Text
