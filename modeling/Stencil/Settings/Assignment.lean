import Stencil.Settings.Key
import Stencil.Toml

/-!
# Assignments to settings

Data put in its place by a key. On the way to the place, what is neither table nor list gives way
to the table or list that the key asks for.
-/

namespace Stencil.Settings

abbrev Data := Entries Toml

/-- Stands for an element that was passed over. No setting reads it. -/
def hole : Toml := .table []

/-- What stands in a place after data was put there. An empty table says nothing, so it gives way
to what was there before. -/
def placed (before : Option Toml) : Toml → Toml
  | .table [] => before.getD (.table [])
  | data => data

def membersOf : Option Toml → Entries Toml
  | some (.table members) => members
  | _ => []

def elementsOf : Option Toml → List Toml
  | some (.array items) => items
  | _ => []

/-- A list that is long enough to have a position: beyond its end or its front there are holes. -/
def reaching (position : Int) (items : List Toml) : List Toml :=
  if 0 ≤ position then items ++ List.replicate (position.toNat + 1 - items.length) hole
  else List.replicate (position.natAbs - items.length) hole ++ items

def fromFront (length : Nat) (position : Int) : Nat :=
  if 0 ≤ position then position.toNat else length - position.natAbs

def placedAt (data : Toml) : List Step → Option Toml → Toml
  | [], before => placed before data
  | .member name :: steps, before =>
    let members := membersOf before
    .table (members.insert name (placedAt data steps (members.get? name)))
  | .element position :: steps, before =>
    let items := reaching position (elementsOf before)
    let index := fromFront items.length position
    .array (items.set index (placedAt data steps items[index]?))

namespace Data

def assign (all : Data) (key : Key) (data : Toml) : Data :=
  Entries.insert all key.name (placedAt data key.steps (Entries.get? all key.name))

def assignAll (all : Data) (pairs : List (String × Toml)) : Data :=
  pairs.foldl (fun all (key, data) => all.assign (.ofText key) data) all

theorem get?_assign (all : Data) (key : Key) (data : Toml) (name : String) :
    Entries.get? (all.assign key data) name =
      if name = key.name then some (placedAt data key.steps (Entries.get? all key.name))
      else Entries.get? all name :=
  Entries.get?_insert ..

end Data

theorem placed_none (data : Toml) : placed none data = data := by
  unfold placed
  split <;> rfl

/-- Data other than a table takes the place of what was there before. -/
theorem placed_of_no_table (before : Option Toml) {data : Toml}
    (h : ∀ members, data ≠ .table members) : placed before data = data := by
  unfold placed
  split
  · exact absurd rfl (h _)
  · rfl

end Stencil.Settings
