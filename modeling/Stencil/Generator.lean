import Stencil.ClassSpec.View
import Stencil.Template

/-!
# Generating files

A generator holds compiled templates and renders each of them for each class. It gives all files
or none. The table of filters that all renders share is its state: filters that a render asks for
are in it from the next render on, whether or not that render succeeds.
-/

namespace Stencil

structure OutputTemplate where
  name : String
  extension : String
  template : Template

structure OutputFile where
  path : String
  template : String
  className : String
  content : String
  deriving DecidableEq, Repr

inductive GenerationError where
  | compile (template : String) (error : CompileError)
  | render (template className : String) (error : RenderError)
  | invalidClass (fault : ClassSpec.Fault)
  | invalidSettings (fault : Settings.Fault)
  deriving DecidableEq, Repr

def GenerationError.message : GenerationError → String
  | .compile template error => s!"Template `{template}` failed to compile: {error.message}"
  | .render template name error =>
    s!"Template `{template}` failed to render for class `{name}`: {error.message}"
  | .invalidClass fault => s!"Validation failed: {fault.message}"
  | .invalidSettings fault => s!"Validation failed: {fault.message}"

/-- A step of a generation. Its state is the table of filters that all renders share. -/
abbrev Generate := EStateM GenerationError FilterTable

structure Generator where
  settings : Settings
  templates : List OutputTemplate
  /-- The filters to use instead of the shared ones, if any. -/
  filters? : Option FilterTable

namespace Generator

def ofSettings (settings : Settings) (filters? : Option FilterTable) : Generator :=
  ⟨settings, [], filters?⟩

/-- Compiles and adds a template. The dots that an extension begins with do not count. -/
def addTemplate (generator : Generator) (name extension source : String) :
    Except GenerationError Generator :=
  match Template.compile source with
  | .error error => .error (.compile name error)
  | .ok template =>
    let bare := String.ofList (extension.toList.dropWhile (· == '.'))
    .ok { generator with templates := generator.templates ++ [⟨name, bare, template⟩] }

def outputPath (generator : Generator) (className extension : String) : String :=
  generator.settings.filePrefix ++ className ++ "." ++ extension

/-- Writes each tab as spaces, unless tabs are kept. -/
def indentText (generator : Generator) (text : String) : String :=
  if generator.settings.indent = 0 then
    text
  else
    String.ofList (text.toList.flatMap fun c =>
      if c = '\t' then List.replicate generator.settings.indent ' ' else [c])

def renderTemplate (generator : Generator) (className : String) (context : Context)
    (output : OutputTemplate) : Generate OutputFile := fun shared =>
  let rendering := output.template.render context (generator.filters?.getD shared)
  let after := shared.extend rendering.requested
  match rendering.result with
  | .error error => .error (.render output.name className error) after
  | .ok text =>
    .ok ⟨generator.outputPath className output.extension, output.name, className,
      generator.indentText text⟩ after

def renderTemplates (generator : Generator) (className : String) (context : Context) :
    List OutputTemplate → Generate (List OutputFile)
  | [] => pure []
  | output :: outputs => do
    let file ← generator.renderTemplate className context output
    let files ← generator.renderTemplates className context outputs
    return file :: files

def renderClass (generator : Generator) (spec : ClassSpec) : Generate (List OutputFile) :=
  match spec.toContext generator.settings with
  | .error fault => throw (.invalidClass fault)
  | .ok context => generator.renderTemplates spec.name context generator.templates

def generate (generator : Generator) : List ClassSpec → Generate (List OutputFile)
  | [] => pure []
  | spec :: specs =>
    if generator.settings.isExcluded spec.name then
      generator.generate specs
    else do
      let files ← generator.renderClass spec
      let others ← generator.generate specs
      return files ++ others

end Generator

end Stencil
