import Stencil.Generator

/-!
# Workspaces

The filter tables of a program: the one that all renders share, and those kept under names. A
table that is kept is a copy; nothing that happens elsewhere changes it.
-/

namespace Stencil

structure Workspace where
  shared : FilterTable
  tables : Entries FilterTable

namespace Workspace

def start : Workspace := ⟨.builtin, []⟩

inductive Table where
  | shared
  | kept (name : String)
  deriving DecidableEq, Repr

def table? (workspace : Workspace) : Table → Option FilterTable
  | .shared => some workspace.shared
  | .kept name => workspace.tables.get? name

def keep (workspace : Workspace) (name : String) (table : FilterTable) : Workspace :=
  { workspace with tables := workspace.tables.insert name table }

def register (workspace : Workspace) (table : Table) (name : String) (filter : Filter) :
    Workspace :=
  match table with
  | .shared => { workspace with shared := workspace.shared.insert name filter }
  | .kept key =>
    match workspace.tables.get? key with
    | none => workspace
    | some kept => workspace.keep key (kept.insert name filter)

def grant (workspace : Workspace) (requested : List (String × Filter)) : Workspace :=
  { workspace with shared := workspace.shared.extend requested }

/-- Renders a template with the filters of `table`, as they are when the render begins. -/
def render (workspace : Workspace) (template : Template) (context : Context)
    (table : FilterTable) : Except RenderError String × Workspace :=
  let rendering := template.render context table
  (rendering.result, workspace.grant rendering.requested)

def apply (workspace : Workspace) (filter : Filter) (text : String) : String × Workspace :=
  (filter.change text, workspace.grant (filter.requests text))

def generate (workspace : Workspace) (files : Generate (List OutputFile)) :
    Except GenerationError (List OutputFile) × Workspace :=
  match files workspace.shared with
  | .ok files shared => (.ok files, { workspace with shared })
  | .error error shared => (.error error, { workspace with shared })

end Workspace

end Stencil
