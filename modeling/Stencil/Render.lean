import Stencil.Context
import Stencil.Filter
import Stencil.Node

/-!
# Rendering

Writing a template against a context. The machine keeps a stack of loop frames, the text written
so far and the filters asked for so far. A loop puts one frame on the stack and takes it off again
whatever happens in its body.
-/

namespace Stencil

inductive RenderError where
  | unknownFilter (name : String) (offset : Nat)
  deriving DecidableEq, Repr

def RenderError.message : RenderError → String
  | .unknownFilter name offset => s!"unknown filter `{name}` at byte {offset}"

/-- A loop in progress. Its rounds are counted from zero. -/
structure Frame where
  var : String
  item : Value
  index : Nat
  count : Nat

namespace Frame

def left (frame : Frame) : Nat :=
  frame.count - frame.index

def progress (frame : Frame) : Entries Value :=
  [("first", .boolean (frame.index == 0)),
   ("last", .boolean (frame.index + 1 == frame.count)),
   ("index", .integer frame.index),
   ("counter", .integer (frame.index + 1)),
   ("counter0", .integer frame.index),
   ("revcounter", .integer frame.left),
   ("revcounter0", .integer (frame.left - 1)),
   ("count", .integer frame.count)]

/-- The name under which the innermost loop says all about its progress. -/
def progressName : String := "forloop"

/-- What the innermost loop also says without that name. -/
def bareNames : List String := ["first", "last", "index", "count"]

def progress? (frame : Frame) (name : String) : Option Value :=
  if name = progressName then some (.mapping frame.progress)
  else if name ∈ bareNames then frame.progress.get? name
  else none

end Frame

def valueOutside (context : Context) (name : String) : List Frame → Option Value
  | [] => context.get? name
  | frame :: frames =>
    if frame.var = name then some frame.item else valueOutside context name frames

/-- The value of a name. The innermost loop answers for its variable and its progress, other loops
for their variables, and the context for all else. -/
def valueOf (context : Context) (name : String) : List Frame → Option Value
  | [] => context.get? name
  | frame :: frames =>
    if frame.var = name then
      some frame.item
    else
      match frame.progress? name with
      | some value => some value
      | none => valueOutside context name frames

def resolve (context : Context) (frames : List Frame) (path : Path) : Value :=
  match valueOf context path.head frames with
  | some value => value.lookup path.rest
  | none => .absent

/-- The state of a render: the loops in progress, innermost first, what has been written, and the
filters asked for in order. -/
structure Machine where
  frames : List Frame
  written : String
  requested : List (String × Filter)

/-- A step of a render. It keeps the state when it stops. -/
abbrev Render := EStateM RenderError Machine

namespace Render

def write (text : String) : Render Unit :=
  modify fun machine => { machine with written := machine.written ++ text }

def throughFilters (table : FilterTable) (offset : Nat) (text : String) :
    List String → Render String
  | [] => pure text
  | name :: names =>
    match table.get? name with
    | none => throw (.unknownFilter name offset)
    | some filter => do
      modify fun machine =>
        { machine with requested := machine.requested ++ filter.requests text }
      throughFilters table offset (filter.change text) names

/-- Runs a step with one more frame on the stack, and takes that frame off at the end. -/
def inFrame (frame : Frame) (action : Render Unit) : Render Unit := fun machine =>
  match action { machine with frames := frame :: machine.frames } with
  | .ok () after => .ok () { after with frames := after.frames.tail }
  | .error error after => .error error { after with frames := after.frames.tail }

def enter (index : Nat) (item : Value) : Render Unit :=
  modify fun machine =>
    match machine.frames with
    | [] => machine
    | frame :: frames => { machine with frames := { frame with index, item } :: frames }

def eachItem (action : Render Unit) (index : Nat) : List Value → Render Unit
  | [] => pure ()
  | item :: items => do
    enter index item
    action
    eachItem action (index + 1) items

variable (context : Context) (table : FilterTable)

mutual

def node : Node → Render Unit
  | .literal text => write text
  | .output path filters offset => do
    let machine ← get
    let text ← throughFilters table offset (resolve context machine.frames path).output filters
    write text
  | .loop var source body onEmpty => do
    let machine ← get
    match resolve context machine.frames source with
    | .sequence (first :: others) =>
      let items := first :: others
      inFrame ⟨var, first, 0, items.length⟩ (eachItem (nodes body) 0 items)
    | _ => optional onEmpty
  | .choice condition negated body otherwise => do
    let machine ← get
    if (resolve context machine.frames condition).isTruthy != negated then
      nodes body
    else
      optional otherwise

def nodes : List Node → Render Unit
  | [] => pure ()
  | first :: others => do
    node first
    nodes others

def optional : Option (List Node) → Render Unit
  | none => pure ()
  | some body => nodes body

end

end Render

structure Rendering where
  result : Except RenderError String
  requested : List (String × Filter)

def renderNodes (context : Context) (table : FilterTable) (body : List Node) : Rendering :=
  match Render.nodes context table body ⟨[], "", []⟩ with
  | .ok () machine => ⟨.ok machine.written, machine.requested⟩
  | .error error machine => ⟨.error error, machine.requested⟩

end Stencil
