import Stencil.ClassSpec
import Stencil.Settings
import Stencil.Text.Identifier

/-!
# Valid class descriptions

A class description is usable when its name and the names of its properties can stand in code and
no two properties share a name, neither as declared nor as exposed. The first offender is blamed.
-/

namespace Stencil.ClassSpec

inductive Fault where
  | emptyName
  | className (name : String)
  | propertyName (property className : String)
  | declaredTwice (property className : String)
  | exposedTwice (first second className exposed : String)
  deriving DecidableEq, Repr

def Fault.message : Fault → String
  | .emptyName => "class name must not be empty"
  | .className name => s!"class name `{name}` is not an identifier"
  | .propertyName property name => s!"property `{property}` of `{name}` is not an identifier"
  | .declaredTwice property name => s!"property `{property}` is declared twice in `{name}`"
  | .exposedTwice first second name exposed =>
    s!"properties `{first}` and `{second}` of `{name}` are both exposed as `{exposed}`"

/-- Checks declared names, of which those in `seen` stand before. -/
def checkDeclared (className : String) (seen : List String) : List String → Except Fault Unit
  | [] => .ok ()
  | name :: names =>
    if !Text.isIdentifier name.toList then .error (.propertyName name className)
    else if seen.contains name then .error (.declaredTwice name className)
    else checkDeclared className (name :: seen) names

/-- Checks exposed names, each paired with the declared one; those in `seen` stand before. -/
def checkExposed (className : String) (seen : Entries String) :
    List (String × String) → Except Fault Unit
  | [] => .ok ()
  | (exposed, name) :: pairs =>
    match seen.get? exposed with
    | some first => .error (.exposedTwice first name className exposed)
    | none => checkExposed className ((exposed, name) :: seen) pairs

def declaredNames (spec : ClassSpec) : List String :=
  spec.properties.map Property.name

def validate (spec : ClassSpec) : Except Fault Unit :=
  if spec.name.isEmpty then .error .emptyName
  else if !Text.isIdentifier spec.name.toList then .error (.className spec.name)
  else checkDeclared spec.name [] spec.declaredNames

def validateFor (spec : ClassSpec) (settings : Settings) : Except Fault Unit :=
  match spec.validate with
  | .error fault => .error fault
  | .ok () =>
    checkExposed spec.name [] (spec.declaredNames.map fun name => (settings.exposedName name, name))

end Stencil.ClassSpec
