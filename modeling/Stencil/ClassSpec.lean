import Stencil.Json

/-!
# Class descriptions

A class that source files are generated for, with its properties. Each property has a kind that
templates decide by. What a description says beyond the known members is kept and passed on to the
templates.
-/

namespace Stencil

inductive PropertyKind where
  | string
  | integer
  | float
  | boolean
  | date
  | datetime
  | time
  | reference
  | other (name : String)
  deriving DecidableEq, Repr

namespace PropertyKind

/-- The name that templates see. -/
def name : PropertyKind → String
  | .string => "string"
  | .integer => "integer"
  | .float => "float"
  | .boolean => "boolean"
  | .date => "date"
  | .datetime => "datetime"
  | .time => "time"
  | .reference => "reference"
  | .other name => name

def title : PropertyKind → String
  | .string => "String"
  | .integer => "Integer"
  | .float => "Float"
  | .boolean => "Boolean"
  | .date => "Date"
  | .datetime => "DateTime"
  | .time => "Time"
  | .reference => "Reference"
  | .other _ => "Other"

/-- The name that stands in data: the title of a known kind in lowercase, and what any other kind is
called. -/
def dataName : PropertyKind → String
  | .other name => name
  | kind => String.ofList (kind.title.toList.map Char.toLower)

def known : List PropertyKind :=
  [.string, .integer, .float, .boolean, .date, .datetime, .time, .reference]

def ofKnownName? (name : String) : Option PropertyKind :=
  known.find? fun kind => kind.dataName == name

def ofName (name : String) : PropertyKind :=
  (ofKnownName? name).getD (.other name)

def isOther : PropertyKind → Bool
  | .other _ => true
  | _ => false

def holdsDate (kind : PropertyKind) : Bool :=
  kind = .date || kind = .datetime

theorem dataName_eq_name (kind : PropertyKind) : kind.dataName = kind.name := by
  cases kind <;> rfl

@[simp] theorem dataName_ofName (name : String) : (ofName name).dataName = name := by
  unfold ofName
  cases h : ofKnownName? name with
  | none => rfl
  | some kind => simpa using List.find?_some h

end PropertyKind

structure Property where
  name : String
  kind : PropertyKind
  nullable : Bool
  default? : Option Json
  declaration? : Option String

structure ClassSpec where
  name : String
  base? : Option String
  primaryField? : Option String
  imports : List String
  properties : List Property
  methods : List String
  /-- All other members, by name. -/
  extra : Entries Json

end Stencil
