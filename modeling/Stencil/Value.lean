import Stencil.Decimal.Shortest
import Stencil.Json
import Stencil.Text.Identifier

/-!
# Values

What a template can read. Nothing is ever missing without an answer: a step that leads nowhere
gives no value, and no value reads as `absent`.
-/

namespace Stencil

inductive Value where
  | absent
  | string (text : String)
  | integer (value : Int)
  | float (value : Float)
  | boolean (value : Bool)
  | sequence (items : List Value)
  | mapping (entries : List (String × Value))
  deriving Inhabited

namespace Value

def kind : Value → String
  | .absent => "absent"
  | .string _ => "string"
  | .integer _ => "integer"
  | .float _ => "float"
  | .boolean _ => "boolean"
  | .sequence _ => "sequence"
  | .mapping _ => "mapping"

/-- Whether a condition on the value holds. Only a mapping is true even when it is empty. -/
def isTruthy : Value → Bool
  | .absent => false
  | .string text => !text.isEmpty
  | .integer value => value != 0
  | .float value => value != 0
  | .boolean value => value
  | .sequence items => !items.isEmpty
  | .mapping _ => true

/-- The text that a value is written as. Only scalars have one. -/
def output : Value → String
  | .string text => text
  | .integer value => toString value
  | .float value => String.ofList (Decimal.ofFloat value)
  | .boolean true => "true"
  | .boolean false => "false"
  | .absent | .sequence _ | .mapping _ => ""

/-- The value one step down: an entry of a mapping by its name, or an element of a sequence by its
number. -/
def step? (value : Value) (segment : String) : Option Value :=
  match value with
  | .mapping entries => Entries.get? entries segment
  | .sequence items => (Text.readNat? segment.toList).bind fun i => items[i]?
  | _ => none

def lookup? (value : Value) : List String → Option Value
  | [] => some value
  | segment :: segments => (value.step? segment).bind (·.lookup? segments)

def lookup (value : Value) (segments : List String) : Value :=
  (value.lookup? segments).getD .absent

def ofSize (size : Nat) : Value :=
  if size < 0x8000000000000000 then .integer size else .float size.toFloat

def ofText? (text : Option String) : Value :=
  (text.map Value.string).getD .absent

mutual

/-- The value of JSON data. An integer that no signed 64-bit word holds is only approximate. -/
def ofJson : Json → Value
  | .null => .absent
  | .boolean value => .boolean value
  | .integer value =>
    if value < 0x8000000000000000 then .integer value else .float value.toNat.toFloat
  | .float value => .float value
  | .string text => .string text
  | .array items => .sequence (ofItems items)
  | .object entries => .mapping (ofMembers entries)

def ofItems : List Json → List Value
  | [] => []
  | item :: items => ofJson item :: ofItems items

def ofMembers : List (String × Json) → List (String × Value)
  | [] => []
  | (name, member) :: members => (name, ofJson member) :: ofMembers members

end

mutual

/-- Whether two values are equal. The order of a mapping's entries does not count; integers and
floats differ; a float that is not a number differs from every value. -/
def same : Value → Value → Bool
  | .absent, .absent => true
  | .string a, .string b => a == b
  | .integer a, .integer b => a == b
  | .float a, .float b => a == b
  | .boolean a, .boolean b => a == b
  | .sequence a, .sequence b => sameItems a b
  | .mapping a, .mapping b => a.length == b.length && sameEntries a b
  | _, _ => false

def sameItems : List Value → List Value → Bool
  | [], [] => true
  | a :: as, b :: bs => same a b && sameItems as bs
  | _, _ => false

def sameEntries : List (String × Value) → List (String × Value) → Bool
  | [], _ => true
  | (name, a) :: as, bs =>
    (match Entries.get? bs name with
      | some b => same a b
      | none => false) && sameEntries as bs

end

@[simp] theorem lookup?_nil (value : Value) : value.lookup? [] = some value := rfl

theorem lookup?_append (value : Value) (front back : List String) :
    value.lookup? (front ++ back) = (value.lookup? front).bind (·.lookup? back) := by
  induction front generalizing value with
  | nil => rfl
  | cons segment front ih =>
    simp only [List.cons_append, lookup?]
    cases value.step? segment with
    | none => rfl
    | some next => exact ih next

end Value

end Stencil
