import Stencil.Entries

/-!
# JSON data

JSON data in the form in which it is stored and compared: the names of an object are distinct and
in order. A number is an integer of 64 bits, signed or unsigned, or else a binary64 number.
-/

namespace Stencil

inductive Json where
  | null
  | boolean (value : Bool)
  | integer (value : Int)
  | float (value : Float)
  | string (text : String)
  | array (items : List Json)
  | object (entries : List (String × Json))

namespace Json

/-- The object with the given members: of equal names the last counts. -/
def ofMembers (members : List (String × Json)) : Json :=
  .object (Entries.ofPairs members).sorted

end Json

end Stencil
