import Stencil.ClassSpec.Validity
import Stencil.Context

/-!
# Classes as templates see them

The context of a class: what its description and the settings say, in fixed order, and then the
extra members, which never hide what stands before them.
-/

namespace Stencil

namespace Property

def exposedName (settings : Settings) (property : Property) : String :=
  settings.exposedName property.name

def exposedUpper (settings : Settings) (property : Property) : String :=
  String.ofList (Text.upperFirst (property.exposedName settings).toList)

def view (settings : Settings) (property : Property) : Value :=
  .mapping [
    ("name", .string (property.exposedName settings)),
    ("name_upper", .string (property.exposedUpper settings)),
    ("kind", .string property.kind.name),
    ("nullable", .boolean property.nullable),
    ("default", (property.default?.map Value.ofJson).getD .absent),
    ("declaration", .ofText? property.declaration?)]

def dateView (settings : Settings) (property : Property) : Value :=
  .mapping [
    ("name", .string (property.exposedName settings)),
    ("name_upper", .string (property.exposedUpper settings))]

end Property

namespace ClassSpec

/-- The exposed name of the property that identifies an object: the one that is said, or a
property declared as `id`. -/
def primaryName? (spec : ClassSpec) (settings : Settings) : Option String :=
  match spec.primaryField? with
  | some name => some name
  | none => (spec.properties.find? (·.name == "id")).map (·.exposedName settings)

def dateProperties (spec : ClassSpec) : List Property :=
  spec.properties.filter (·.kind.holdsDate)

def computed (spec : ClassSpec) (settings : Settings) : Entries Value :=
  [("prefix", .string settings.filePrefix),
   ("name", .string spec.name),
   ("name_lower", .string (String.ofList (Text.lowerFirst spec.name.toList))),
   ("base_name", .ofText? spec.base?),
   ("primary_field", .ofText? (spec.primaryName? settings)),
   ("imports", .sequence (spec.imports.map .string)),
   ("methods", .sequence (spec.methods.map .string)),
   ("properties", .sequence (spec.properties.map (·.view settings))),
   ("has_date", .boolean (spec.properties.any (·.kind.holdsDate))),
   ("has_bool", .boolean (spec.properties.any (·.kind == .boolean))),
   ("datetime_fields", .sequence (spec.dateProperties.map (·.dateView settings)))]

def addExtra (context : Context) (entry : String × Json) : Context :=
  if context.contains entry.1 then context else context.insert entry.1 (.ofJson entry.2)

def toContext (spec : ClassSpec) (settings : Settings) : Except Fault Context :=
  match spec.validateFor settings with
  | .error fault => .error fault
  | .ok () => .ok (spec.extra.foldl addExtra (spec.computed settings))

end ClassSpec

end Stencil
