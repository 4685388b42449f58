import Stencil.Document
import Stencil.Settings
import Stencil.Toml.Quoted

/-!
# Settings files

The text of a settings file, the place where it is kept, and settings read from JSON data.
-/

namespace Stencil.Settings

def arrayText (items : List String) : List Char :=
  let encoded := items.map fun item => Toml.Quoted.encode item.toList
  '[' :: (encoded.intersperse [',', ' ']).flatten ++ [']']

def line (name : String) (value : List Char) : List Char :=
  name.toList ++ [' ', '=', ' '] ++ value ++ ['\n']

def toToml (settings : Settings) : String :=
  String.ofList (
    line "prefix" (Toml.Quoted.encode settings.filePrefix.toList) ++
    line "indent" (Nat.toDigits 10 settings.indent) ++
    line "exclude" (arrayText settings.exclude) ++
    line "camelcase" (if settings.camelCase then "true".toList else "false".toList))

/-- The text that is saved for settings. Nothing is saved for settings that are refused. -/
def save (settings : Settings) : Except Fault String :=
  match settings.validate with
  | .error fault => .error fault
  | .ok () => .ok settings.toToml

def below (path name : String) : String :=
  if path.isEmpty || path.endsWith "/" then path ++ name else path ++ "/" ++ name

def fallbackHome : String := "/root"

/-- The place of the settings file: below the directory for settings that the environment names by
an absolute path, or else below the user's home. -/
def defaultPath (environment : Entries String) : String :=
  let home := ((environment.get? "HOME").filter (!·.isEmpty)).getD fallbackHome
  let directory :=
    match (environment.get? "XDG_CONFIG_HOME").filter (·.startsWith "/") with
    | some directory => directory
    | none => below home ".config"
  below (below directory "symmetric") "codegen.toml"

def member? {α : Type} (data : Option Json) (missing : α) (read : Json → Option α) : Option α :=
  match data with
  | none => some missing
  | some data => read data

def jsonText? : Json → Option String
  | .string text => some text
  | _ => none

def jsonSize? : Json → Option Nat
  | .integer value => if 0 ≤ value then some value.toNat else none
  | _ => none

def jsonTexts? : Json → Option (List String)
  | .array items => items.mapM jsonText?
  | _ => none

def jsonBoolean? : Json → Option Bool
  | .boolean value => some value
  | _ => none

def ofFields? (filePrefix indent exclude camelCase : Option Json) : Option Settings := do
  return {
    filePrefix := ← member? filePrefix default.filePrefix jsonText?
    indent := ← member? indent default.indent jsonSize?
    exclude := ← member? exclude default.exclude jsonTexts?
    camelCase := ← member? camelCase default.camelCase jsonBoolean? }

def ofJson? : Json → Option Settings
  | .object entries =>
    ofFields? (Entries.get? entries "prefix") (Entries.get? entries "indent")
      (Entries.get? entries "exclude") (Entries.get? entries "camelcase")
  | .array items =>
    if items.length ≤ 4 then ofFields? items[0]? items[1]? items[2]? items[3]? else none
  | _ => none

end Stencil.Settings
