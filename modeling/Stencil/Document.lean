import Stencil.Json

/-!
# Documents

Structured data as it is written in a file: the members of a table in written order, repeated
names included. Some text is well formed and yet stands for no data, such as a number that is too
large; it does no harm where nothing reads it.
-/

namespace Stencil

inductive Document where
  | null
  | boolean (value : Bool)
  | integer (value : Int)
  | float (value : Float)
  | string (text : String)
  | array (items : List Document)
  | table (members : List (String × Document))
  /-- Well formed, but it stands for no data. -/
  | unusable

namespace Document

mutual

/-- The JSON data that a document stands for. No data is the not-a-number or an infinity: these
are null. -/
def toJson? : Document → Option Json
  | .null => some .null
  | .boolean value => some (.boolean value)
  | .integer value => some (.integer value)
  | .float value => some (if value.isFinite then .float value else .null)
  | .string text => some (.string text)
  | .array items => (itemsToJson? items).map .array
  | .table members => (membersToJson? members).map .ofMembers
  | .unusable => none

def itemsToJson? : List Document → Option (List Json)
  | [] => some []
  | item :: items => do
    let first ← toJson? item
    let others ← itemsToJson? items
    return first :: others

def membersToJson? : List (String × Document) → Option (List (String × Json))
  | [] => some []
  | (name, member) :: members => do
    let first ← toJson? member
    let others ← membersToJson? members
    return (name, first) :: others

end

mutual

def ofJson : Json → Document
  | .null => .null
  | .boolean value => .boolean value
  | .integer value => .integer value
  | .float value => .float value
  | .string text => .string text
  | .array items => .array (ofItems items)
  | .object members => .table (ofMembers members)

def ofItems : List Json → List Document
  | [] => []
  | item :: items => ofJson item :: ofItems items

def ofMembers : List (String × Json) → List (String × Document)
  | [] => []
  | (name, member) :: members => (name, ofJson member) :: ofMembers members

end

end Document

end Stencil
