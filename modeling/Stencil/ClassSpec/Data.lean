import Stencil.ClassSpec
import Stencil.Document

/-!
# Class descriptions as data

Writing a class description as JSON data and reading one from a document. A member that is not
known is an extra one; a known member may stand only once. The kind of a property may be called
`kind` or `type`, and a property may be written as a list of its members in order.
-/

namespace Stencil

inductive Document.Format where
  | json
  | toml
  deriving DecidableEq, Repr

/-- Whether a list of members may go on after the last of them. What follows then does not
count. -/
def Document.Format.allowsLongLists : Document.Format → Bool
  | .json => false
  | .toml => true

/-- A known member of a table. Nothing is found for it if it stands there more than once. -/
def Document.member? (members : List (String × Document)) (isName : String → Bool) :
    Option (Option Document) :=
  match members.filter fun member => isName member.1 with
  | [] => some none
  | [member] => some (some member.2)
  | _ => none

namespace Document

def text? : Document → Option String
  | .string text => some text
  | _ => none

def optionalText? : Option Document → Option (Option String)
  | none | some .null => some none
  | some document => document.text?.map some

def optionalBoolean? (missing : Bool) : Option Document → Option Bool
  | none => some missing
  | some (.boolean value) => some value
  | some _ => none

def optionalTexts? : Option Document → Option (List String)
  | none => some []
  | some (.array items) => items.mapM text?
  | some _ => none

def optionalJson? : Option Document → Option (Option Json)
  | none | some .null => some none
  | some document => document.toJson?.map some

end Document

namespace PropertyKind

/-- Reads a kind: its name, or a table whose one member has the name of a known kind and no
data. -/
def ofDocument? : Document → Option PropertyKind
  | .string name => some (ofName name)
  | .table [(name, .null)] => ofKnownName? name
  | _ => none

end PropertyKind

namespace Property

def ofMembers? (name kind nullable default declaration : Option Document) : Option Property := do
  return {
    name := ← (← name).text?
    kind := ← PropertyKind.ofDocument? (← kind)
    nullable := ← Document.optionalBoolean? false nullable
    default? := ← Document.optionalJson? default
    declaration? := ← Document.optionalText? declaration }

def memberCount : Nat := 5

def ofDocument? (format : Document.Format) : Document → Option Property
  | .table members => do
    ofMembers? (← Document.member? members (· == "name"))
      (← Document.member? members fun name => name == "kind" || name == "type")
      (← Document.member? members (· == "nullable"))
      (← Document.member? members (· == "default"))
      (← Document.member? members (· == "declaration"))
  | .array items =>
    if items.length ≤ memberCount || format.allowsLongLists then
      ofMembers? items[0]? items[1]? items[2]? items[3]? items[4]?
    else
      none
  | _ => none

def members (property : Property) : List (String × Json) :=
  [("name", .string property.name), ("kind", .string property.kind.dataName),
    ("nullable", .boolean property.nullable)] ++
  (property.default?.map fun data => ("default", data)).toList ++
  (property.declaration?.map fun line => ("declaration", .string line)).toList

def toJson (property : Property) : Json :=
  .ofMembers property.members

end Property

namespace ClassSpec

def memberNames : List String :=
  ["name", "base_name", "primary_field", "imports", "properties", "methods"]

def optionalProperties? (format : Document.Format) : Option Document → Option (List Property)
  | none => some []
  | some (.array items) => items.mapM (Property.ofDocument? format)
  | some _ => none

def ofDocument? (format : Document.Format) : Document → Option ClassSpec
  | .table members => do
    let extra := members.filter fun member => !memberNames.contains member.1
    return {
      name := ← (← ← Document.member? members (· == "name")).text?
      base? := ← Document.optionalText? (← Document.member? members (· == "base_name"))
      primaryField? := ← Document.optionalText? (← Document.member? members (· == "primary_field"))
      imports := ← Document.optionalTexts? (← Document.member? members (· == "imports"))
      properties := ← optionalProperties? format (← Document.member? members (· == "properties"))
      methods := ← Document.optionalTexts? (← Document.member? members (· == "methods"))
      extra := .ofPairs (← Document.membersToJson? extra) }
  | _ => none

/-- The members of a class description as data. What is not there is not written, and an extra
member counts for more than a known one of its name. -/
def members (spec : ClassSpec) : List (String × Json) :=
  [("name", .string spec.name)] ++
  (spec.base?.map fun name => ("base_name", .string name)).toList ++
  (spec.primaryField?.map fun name => ("primary_field", .string name)).toList ++
  [("imports", .array (spec.imports.map .string)),
    ("properties", .array (spec.properties.map Property.toJson)),
    ("methods", .array (spec.methods.map .string))] ++
  spec.extra

def toJson (spec : ClassSpec) : Json :=
  .ofMembers spec.members

end ClassSpec

end Stencil
