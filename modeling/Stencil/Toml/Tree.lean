import Stencil.Toml

/-!
# Building TOML tables

The statements of a TOML file, and the table that they define together. A table is defined once,
in one way: by a header, by dotted names or as a value. Headers may come in any order, and a header
inside a list of tables means the last table of the list.
-/

namespace Stencil.Toml

/-- A table that is being defined, or something in one. -/
inductive Item where
  | value (data : Toml)
  /-- A list of tables that headers define; a list is never empty once a table was added. -/
  | list (tables : List Item)
  /-- A table. It is implied until a header defines it; it is dotted if dotted names define it. -/
  | table (implied dotted : Bool) (members : List (String × Item))

namespace Item

/-- A table with no members that nothing has defined yet. -/
def implied (dotted : Bool) : Item := .table true dotted []

def headed : Item := .table false false []

mutual

def toToml : Item → Toml
  | .value data => data
  | .list tables => .array (itemsToToml tables)
  | .table _ _ members => .table (membersToToml members)

def itemsToToml : List Item → List Toml
  | [] => []
  | item :: items => toToml item :: itemsToToml items

def membersToToml : List (String × Item) → List (String × Toml)
  | [] => []
  | (name, item) :: members => (name, toToml item) :: membersToToml members

end

def changeLast (change : Item → Option Item) : List Item → Option (List Item)
  | [] => none
  | [item] => (change item).map fun changed => [changed]
  | item :: items => (changeLast change items).map (item :: ·)

/-- Changes the table at the end of a path, and makes the tables on the way that are not there.
Dotted names may not pass through a table that a header defines. -/
def changeAt (dotted : Bool) (change : Item → Option Item) : List String → Item → Option Item
  | [], item => change item
  | name :: path, .table isImplied isDotted members => do
    let next ←
      match Entries.get? members name with
      | none => changeAt dotted change path (implied dotted)
      | some (.value _) => none
      | some (.list tables) => (changeLast (changeAt dotted change path) tables).map .list
      | some (.table true itemDotted inner) =>
        changeAt dotted change path (.table true itemDotted inner)
      | some (.table false itemDotted inner) =>
        if dotted then none else changeAt dotted change path (.table false itemDotted inner)
    return .table isImplied isDotted (Entries.insert members name next)
  | _ :: _, _ => none

/-- Adds a member under a name that is not there yet. A dotted name must end in a table that
dotted names define. -/
def addMember (isDottedName : Bool) (name : String) (item : Item) : Item → Option Item
  | .table isImplied isDotted members =>
    if isDotted = isDottedName ∧ !Entries.contains members name then
      some (.table isImplied isDotted (members ++ [(name, item)]))
    else
      none
  | _ => none

def addPair (path : List String) (name : String) (data : Toml) (table : Item) : Option Item :=
  changeAt true (addMember (!path.isEmpty) name (.value data)) path table

def ofPairs? (pairs : List (List String × String × Toml)) : Option Item :=
  pairs.foldlM (fun table (path, name, data) => addPair path name data table) headed

end Item

inductive Statement where
  | header (path : List String) (name : String)
  | listHeader (path : List String) (name : String)
  | pair (path : List String) (name : String) (data : Toml)

inductive Place where
  | root
  | table (path : List String) (name : String)
  | list (path : List String) (name : String)

structure Draft where
  root : Item
  current : Item
  place : Place

namespace Draft

def start : Draft := ⟨.headed, .headed, .root⟩

def addTable (name : String) (table : Item) : Item → Option Item
  | .table isImplied isDotted members =>
    some (.table isImplied isDotted (Entries.insert members name table))
  | _ => none

def addToList (name : String) (table : Item) : Item → Option Item
  | .table isImplied isDotted members =>
    match Entries.get? members name with
    | some (.list tables) =>
      some (.table isImplied isDotted (Entries.insert members name (.list (tables ++ [table]))))
    | _ => none
  | _ => none

def settle (draft : Draft) : Option Item :=
  match draft.place with
  | .root => some draft.current
  | .table path name => Item.changeAt false (addTable name draft.current) path draft.root
  | .list path name => Item.changeAt false (addToList name draft.current) path draft.root

def without (name : String) : Item → Option Item
  | .table isImplied isDotted members =>
    some (.table isImplied isDotted (members.filter fun member => member.1 != name))
  | _ => none

def find? : List String → Item → Option Item
  | [], item => some item
  | name :: path, .table _ _ members => (Entries.get? members name).bind (find? path)
  | name :: path, .list tables =>
    match tables.getLast? with
    | some (.table _ _ members) => (Entries.get? members name).bind (find? path)
    | _ => none
  | _ :: _, .value _ => none

/-- Begins the table of a header. One that is only implied keeps its members. -/
def openTable (root : Item) (path : List String) (name : String) : Option Draft :=
  match find? (path ++ [name]) root with
  | none => (Item.changeAt false some path root).map (⟨·, .headed, .table path name⟩)
  | some (.table true false members) =>
    (Item.changeAt false (without name) path root).map
      (⟨·, .table false false members, .table path name⟩)
  | some _ => none

def ensureList (name : String) : Item → Option Item
  | .table isImplied isDotted members =>
    match Entries.get? members name with
    | none => some (.table isImplied isDotted (members ++ [(name, .list [])]))
    | some (.list _) => some (.table isImplied isDotted members)
    | some _ => none
  | _ => none

def openInList (root : Item) (path : List String) (name : String) : Option Draft :=
  (Item.changeAt false (ensureList name) path root).map (⟨·, .headed, .list path name⟩)

def step (draft : Draft) : Statement → Option Draft
  | .pair path name data =>
    (Item.addPair path name data draft.current).map fun current => { draft with current }
  | .header path name => draft.settle.bind fun root => openTable root path name
  | .listHeader path name => draft.settle.bind fun root => openInList root path name

end Draft

def ofStatements? (statements : List Statement) : Option Toml :=
  ((statements.foldlM Draft.step Draft.start).bind Draft.settle).map Item.toToml

end Stencil.Toml
