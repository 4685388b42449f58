import Stencil.Document

/-!
# TOML data

The data of a TOML file. The members of a table are distinct and in written order.
-/

namespace Stencil

inductive Toml where
  | string (text : String)
  | integer (value : Int)
  | float (value : Float)
  | boolean (value : Bool)
  /-- A date, a time or both, in its normal spelling. -/
  | datetime (text : String)
  | array (items : List Toml)
  | table (members : List (String × Toml))

namespace Toml

/-- The one member of the table that stands for a date or time where there are only tables. -/
def datetimeMember : String := "$__toml_private_datetime"

mutual

def toDocument : Toml → Document
  | .string text => .string text
  | .integer value => .integer value
  | .float value => .float value
  | .boolean value => .boolean value
  | .datetime text => .table [(datetimeMember, .string text)]
  | .array items => .array (itemsToDocument items)
  | .table members => .table (membersToDocument members)

def itemsToDocument : List Toml → List Document
  | [] => []
  | item :: items => toDocument item :: itemsToDocument items

def membersToDocument : List (String × Toml) → List (String × Document)
  | [] => []
  | (name, member) :: members => (name, toDocument member) :: membersToDocument members

end

end Toml

end Stencil
