import Stencil.Settings
import Stencil.Settings.Assignment
import Stencil.Toml.Reader

/-!
# Layered settings

Settings come from a file and, above it, from environment variables. Each says data by keys, and
what is said later has the last word on its place. Where keys are plain names, each field is
decided on its own: by the variable of its name if there is one, else by the file, else by the
default.
-/

namespace Stencil.Settings

/-- What one source of settings says: data by the texts of its keys, in order. -/
abbrev Layer := List (String × Toml)

inductive LoadError where
  /-- The file is no TOML, or a value does not fit its field. -/
  | unreadable
  | invalid (fault : Fault)
  deriving DecidableEq, Repr

def lowered (name : String) : String :=
  String.ofList (Text.lower name.toList)

/-- What a file says. Dates and times may stand in it as tables, but the file as a whole must be a
table still. -/
def fileLayer? (file : Toml) : Option Layer :=
  match file.withDatetimes? with
  | some (.table members) => some members
  | _ => none

def variableStart : List Char := "symmetric_".toList

def variableKey? (name : String) : Option String :=
  let low := Text.lower name.toList
  if variableStart.isPrefixOf low then some (String.ofList (low.drop variableStart.length))
  else none

/-- The value of a variable: a truth value, an integer or a float if its text is one. The classes
to leave out are a list with commas between them; all else is text. -/
def variableValue (key value : String) : Toml :=
  let text := value.toList
  if lowered value = "true" then .boolean true
  else if lowered value = "false" then .boolean false
  else
    match Numeral.readInt64? text with
    | some n => .integer n
    | none =>
      match Numeral.readFloat? text with
      | some x => .float x
      | none =>
        if key = "exclude" then
          .array ((Text.fields (· == ',') text).map fun item => .string (String.ofList item))
        else
          .string value

def environmentLayer (environment : List (String × String)) : Layer :=
  environment.filterMap fun (name, value) =>
    (variableKey? name).map fun key => (key, variableValue key value)

def toText? : Toml → Option String
  | .string text => some text
  | .datetime text => some text
  | .boolean value => some (if value then "true" else "false")
  | .integer value => some (toString value)
  | .float value => some (String.ofList (Decimal.ofFloat value))
  | .array _ | .table _ => none

def trueWords : List String := ["true", "on", "yes"]

def falseWords : List String := ["false", "off", "no"]

/-- Reads a size. A float is rounded to the nearest, a half away from zero, and cut to the sizes
that an unsigned 64-bit word holds. -/
def toSize? : Toml → Option Nat
  | .boolean value => some value.toNat
  | .integer value => if 0 ≤ value then some value.toNat else none
  | .float value => some value.round.toUInt64.toNat
  | .string text =>
    if lowered text ∈ trueWords then some 1
    else if lowered text ∈ falseWords then some 0
    else Numeral.readUInt64? text.toList
  | .datetime _ | .array _ | .table _ => none

/-- Reads a truth value. A number is true unless it is zero. -/
def toBoolean? : Toml → Option Bool
  | .boolean value => some value
  | .integer value => some (value != 0)
  | .float value => some (value != 0)
  | .string text =>
    if lowered text ∈ "1" :: trueWords then some true
    else if lowered text ∈ "0" :: falseWords then some false
    else none
  | .datetime _ | .array _ | .table _ => none

def toTexts? : Toml → Option (List String)
  | .array items => items.mapM toText?
  | _ => none

def field? {α : Type} (data : Data) (name : String) (missing : α) (read : Toml → Option α) :
    Option α :=
  match Entries.get? data name with
  | none => some missing
  | some said => read said

def ofData? (data : Data) : Option Settings := do
  return {
    filePrefix := ← field? data "prefix" default.filePrefix toText?
    indent := ← field? data "indent" default.indent toSize?
    exclude := ← field? data "exclude" default.exclude toTexts?
    camelCase := ← field? data "camelcase" default.camelCase toBoolean? }

/-- The settings that layers say, the strongest last. -/
def ofLayers? (layers : List Layer) : Option Settings :=
  ofData? (Data.assignAll [] layers.flatten)

def readFile? (text : String) : Option Layer :=
  (Toml.read? (String.ofList (Toml.dropMark text.toList))).bind fileLayer?

def load (file : Option String) (environment : List (String × String)) :
    Except LoadError Settings :=
  let fromFile : Option Layer :=
    match file with
    | none => some []
    | some text => readFile? text
  match fromFile.bind fun said => ofLayers? [said, environmentLayer environment] with
  | none => .error .unreadable
  | some settings =>
    match settings.validate with
    | .error fault => .error (.invalid fault)
    | .ok () => .ok settings

end Stencil.Settings
