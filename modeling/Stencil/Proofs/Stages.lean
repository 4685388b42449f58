import Stencil.Proofs.Meaning

/-!
# Stages of a render

A render taken step by step. A stage is the machine together with what is still to be done, so
everything that happens between the beginning and the end of a render can be seen: a loop puts its
frame on the stack, moves it to the next element, and takes it off again, also when an error is on
its way out. The main statement is that the steps come to the very end that the render comes to.
-/

namespace Stencil

open StateTransition (Reaches)

inductive Task where
  | body (nodes : List Node)
  /-- The rounds of the innermost loop from number `index` on, over the elements that are left.
  After them its frame is taken off. -/
  | rounds (body : List Node) (index : Nat) (items : List Value)

/-- A render in progress: the machine, the error that has stopped it, if any, and the tasks that are
left, the next one first. -/
structure Stage where
  machine : Machine
  failure : Option RenderError
  tasks : List Task

def Machine.push (machine : Machine) (frame : Frame) : Machine :=
  { machine with frames := frame :: machine.frames }

def Machine.pop (machine : Machine) : Machine :=
  { machine with frames := machine.frames.tail }

namespace Render

/-- The end of a loop's rounds with its frame taken off, whether they ended well or not. -/
def popped : EStateM.Result RenderError Machine Unit → EStateM.Result RenderError Machine Unit
  | .ok () machine => .ok () machine.pop
  | .error error machine => .error error machine.pop

theorem inFrame_eq (frame : Frame) (action : Render Unit) (machine : Machine) :
    inFrame frame action machine = popped (action (machine.push frame)) := by
  unfold inFrame Machine.push popped
  cases action { machine with frames := frame :: machine.frames } <;> rfl

theorem node_loop_eq (context : Context) (table : FilterTable) (var : String) (source : Path)
    (body : List Node) (onEmpty : Option (List Node)) (machine : Machine) :
    node context table (.loop var source body onEmpty) machine =
      (match resolve context machine.frames source with
        | .sequence (first :: others) =>
          inFrame ⟨var, first, 0, (first :: others).length⟩
            (eachItem (nodes context table body) 0 (first :: others))
        | _ => optional context table onEmpty) machine :=
  rfl

end Render

def Task.abandon (machine : Machine) : Task → Machine
  | .body _ => machine
  | .rounds .. => machine.pop

namespace Stage

def after (ended : EStateM.Result RenderError Machine Unit) (tasks : List Task) : Stage :=
  match ended with
  | .ok () machine => ⟨machine, none, tasks⟩
  | .error error machine => ⟨machine, some error, tasks⟩

def start (body : List Node) : Stage :=
  ⟨⟨[], "", []⟩, none, [.body body]⟩

section
variable (context : Context) (table : FilterTable)

/-- The stage after a node is begun. A literal or a value is written; of a loop or a condition
nothing is done yet but to find out what it is about. -/
def beginNode (machine : Machine) (tasks : List Task) : Node → Stage
  | .loop var source body onEmpty =>
    match resolve context machine.frames source with
    | .sequence (first :: others) =>
      let items := first :: others
      ⟨machine.push ⟨var, first, 0, items.length⟩, none, .rounds body 0 items :: tasks⟩
    | _ => ⟨machine, none, .body (onEmpty.getD []) :: tasks⟩
  | .choice condition negated body otherwise =>
    if (resolve context machine.frames condition).isTruthy != negated then
      ⟨machine, none, .body body :: tasks⟩
    else
      ⟨machine, none, .body (otherwise.getD []) :: tasks⟩
  | node => after (Render.node context table node machine) tasks

def perform (machine : Machine) (tasks : List Task) : Task → Stage
  | .body [] => ⟨machine, none, tasks⟩
  | .body (node :: nodes) => beginNode context table machine (.body nodes :: tasks) node
  | .rounds _ _ [] => ⟨machine.pop, none, tasks⟩
  | .rounds body index (item :: items) =>
    after (Render.enter index item machine) (.body body :: .rounds body (index + 1) items :: tasks)

/-- One step of a render, unless it has come to its end. After an error no task is done any more,
but the frames are taken off. -/
def next? : Stage → Option Stage
  | ⟨_, _, []⟩ => none
  | ⟨machine, none, task :: tasks⟩ => some (perform context table machine tasks task)
  | ⟨machine, some error, task :: tasks⟩ => some ⟨task.abandon machine, some error, tasks⟩

end

-- ---------------------------------------------------------------------------
-- Whole runs
-- ---------------------------------------------------------------------------

section
variable {context : Context} {table : FilterTable}

/-- The rounds of a loop come to their end if its body does, wherever it is begun. -/
theorem reaches_rounds {body : List Node}
    (hbody : ∀ machine tasks, Reaches (next? context table) ⟨machine, none, .body body :: tasks⟩
      (after (Render.nodes context table body machine) tasks))
    (items : List Value) (index : Nat) (machine : Machine) (tasks : List Task) :
    Reaches (next? context table) ⟨machine, none, .rounds body index items :: tasks⟩
      (after (Render.popped (Render.eachItem (Render.nodes context table body) index items machine))
        tasks) := by
  induction items generalizing index machine with
  | nil => exact .single rfl
  | cons item items ih =>
    obtain ⟨entered, henter⟩ : ∃ entered, Render.enter index item machine = .ok () entered :=
      ⟨_, rfl⟩
    have hround : next? context table
        ⟨machine, none, .rounds body index (item :: items) :: tasks⟩ =
          some ⟨entered, none, .body body :: .rounds body (index + 1) items :: tasks⟩ := by
      rw [next?, perform, henter]
      rfl
    refine .head hround ((hbody entered _).trans ?_)
    cases hrun : Render.nodes context table body entered with
    | ok _ next =>
      have heach : Render.eachItem (Render.nodes context table body) index (item :: items) machine =
          Render.eachItem (Render.nodes context table body) (index + 1) items next := by
        simp [Render.eachItem, bind, EStateM.bind, henter, hrun]
      rw [heach]
      exact ih (index + 1) next
    | error error next =>
      have heach : Render.eachItem (Render.nodes context table body) index (item :: items) machine =
          .error error next := by
        simp [Render.eachItem, bind, EStateM.bind, henter, hrun]
      rw [heach]
      exact .single rfl

end

section
variable (context : Context) (table : FilterTable)

mutual

theorem reaches_node (node : Node) (machine : Machine) (tasks : List Task) :
    Reaches (next? context table) (beginNode context table machine tasks node)
      (after (Render.node context table node machine) tasks) := by
  cases node with
  | literal text => exact .refl
  | output path filters offset => exact .refl
  | loop var source body onEmpty =>
    rw [Render.node_loop_eq, beginNode]
    cases resolve context machine.frames source with
    | sequence items =>
      cases items with
      | nil => exact reaches_optional onEmpty machine tasks
      | cons first others =>
        simp only [Render.inFrame_eq]
        exact reaches_rounds (reaches_nodes body) (first :: others) 0 _ tasks
    | _ => exact reaches_optional onEmpty machine tasks
  | choice condition negated body otherwise =>
    have hnode : Render.node context table (.choice condition negated body otherwise) machine =
        (if (resolve context machine.frames condition).isTruthy != negated then
          Render.nodes context table body
        else
          Render.optional context table otherwise) machine := rfl
    rw [hnode, beginNode]
    split
    · exact reaches_nodes body machine tasks
    · exact reaches_optional otherwise machine tasks

theorem reaches_nodes (nodes : List Node) (machine : Machine) (tasks : List Task) :
    Reaches (next? context table) ⟨machine, none, .body nodes :: tasks⟩
      (after (Render.nodes context table nodes machine) tasks) := by
  cases nodes with
  | nil => exact .single rfl
  | cons node nodes =>
    refine .head rfl ((reaches_node node machine (.body nodes :: tasks)).trans ?_)
    have hnodes : Render.nodes context table (node :: nodes) machine =
        (Render.node context table node >>= fun _ => Render.nodes context table nodes) machine :=
      rfl
    rw [hnodes]
    simp only [bind, EStateM.bind]
    cases Render.node context table node machine with
    | ok _ next => exact reaches_nodes nodes next tasks
    | error error next => exact .single rfl

theorem reaches_optional (body : Option (List Node)) (machine : Machine) (tasks : List Task) :
    Reaches (next? context table) ⟨machine, none, .body (body.getD []) :: tasks⟩
      (after (Render.optional context table body machine) tasks) := by
  cases body with
  | none => exact .single rfl
  | some body => exact reaches_nodes body machine tasks

end

/-- Step by step a render comes to the end that it comes to as a whole, with nothing left to do. -/
theorem eval_start (body : List Node) :
    after (Render.nodes context table body ⟨[], "", []⟩) [] ∈
      StateTransition.eval (next? context table) (start body) := by
  refine StateTransition.mem_eval.mpr ⟨reaches_nodes context table body _ [], ?_⟩
  cases Render.nodes context table body ⟨[], "", []⟩ <;> rfl

theorem reaches_end {body : List Node} {stage : Stage}
    (h : Reaches (next? context table) (start body) stage) :
    Reaches (next? context table) stage
      (after (Render.nodes context table body ⟨[], "", []⟩) []) := by
  have hend := eval_start context table body
  rw [StateTransition.reaches_eval h] at hend
  exact (StateTransition.mem_eval.mp hend).1

end

end Stage

end Stencil
