import Stencil.Value

/-!
# Contexts

The named values that a template is rendered against.
-/

namespace Stencil

abbrev Context := Entries Value

namespace Context

inductive Fault where
  | notMapping (kind : String)
  deriving DecidableEq, Repr

def Fault.message : Fault → String
  | .notMapping kind => s!"context root must be a mapping, found {kind}"

def ofValue : Value → Except Fault Context
  | .mapping entries => .ok entries
  | value => .error (.notMapping value.kind)

def same (a b : Context) : Bool :=
  Value.same (.mapping a) (.mapping b)

end Context

end Stencil
