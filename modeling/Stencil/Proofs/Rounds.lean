import Stencil.Proofs.Stages

/-!
# Rounds of loops

A loop in progress is always in one of its rounds. Whatever a render has done so far, each frame on
the stack is that of a loop over a sequence, and holds the element of the sequence that has the
number of the round. So the progress of a loop is never out of range: the numbers from the front and
from the back fit together. A loop runs its body just once for each element, in order.
-/

namespace Stencil

open StateTransition (Reaches)

namespace Node

mutual

def loops : Node → List (String × Path)
  | .literal _ | .output .. => []
  | .loop var source body onEmpty => (var, source) :: (loopsOf body ++ loopsOfOptional onEmpty)
  | .choice _ _ body otherwise => loopsOf body ++ loopsOfOptional otherwise

def loopsOf : List Node → List (String × Path)
  | [] => []
  | node :: nodes => loops node ++ loopsOf nodes

def loopsOfOptional : Option (List Node) → List (String × Path)
  | none => []
  | some body => loopsOf body

end

end Node

-- ---------------------------------------------------------------------------
-- Frames in range
-- ---------------------------------------------------------------------------

/-- The frame is in a round of a loop over the items: it holds the one with its number. -/
structure Frame.RoundOf (items : List Value) (frame : Frame) : Prop where
  index_lt_count : frame.index < frame.count
  count_eq : frame.count = items.length
  item_eq : items[frame.index]? = some frame.item

/-- Each frame is in a round of one of the loops, over the sequence that the source of the loop
leads to outside of it. -/
def InRounds (context : Context) (loops : List (String × Path)) : List Frame → Prop
  | [] => True
  | frame :: frames =>
    (∃ source items, (frame.var, source) ∈ loops ∧
      resolve context frames source = .sequence items ∧ frame.RoundOf items) ∧
    InRounds context loops frames

structure Frame.Counts (frame : Frame) : Prop where
  index : frame.progress.get? "index" = some (.integer frame.index)
  count : frame.progress.get? "count" = some (.integer frame.count)
  counter : frame.progress.get? "counter" = some (.integer (frame.index + 1))
  revcounter : ∃ n : Int, frame.progress.get? "revcounter" = some (.integer n) ∧
    frame.index + 1 + n = frame.count + 1
  counter0 : frame.progress.get? "counter0" = some (.integer frame.index)
  revcounter0 : ∃ n : Int, frame.progress.get? "revcounter0" = some (.integer n) ∧
    frame.index + n = frame.count - 1
  first : ∃ b, frame.progress.get? "first" = some (.boolean b) ∧ (b = true ↔ frame.index = 0)
  last : ∃ b, frame.progress.get? "last" = some (.boolean b) ∧
    (b = true ↔ frame.index + 1 = frame.count)

theorem Frame.counts_of_lt {frame : Frame} (h : frame.index < frame.count) : frame.Counts where
  index := by simp [progress, Entries.get?_cons]
  count := by simp [progress, Entries.get?_cons]
  counter := by simp [progress, Entries.get?_cons]
  revcounter := by
    refine ⟨frame.left, by simp [progress, Entries.get?_cons], ?_⟩
    unfold left
    omega
  counter0 := by simp [progress, Entries.get?_cons]
  revcounter0 := by
    refine ⟨frame.left - 1, by simp [progress, Entries.get?_cons], ?_⟩
    unfold left
    omega
  first := ⟨frame.index == 0, by simp [progress, Entries.get?_cons], by simp⟩
  last := ⟨frame.index + 1 == frame.count, by simp [progress, Entries.get?_cons], by simp⟩

theorem InRounds.counts {context : Context} {loops : List (String × Path)} {frames : List Frame}
    (h : InRounds context loops frames) : ∀ frame ∈ frames, frame.Counts := by
  induction frames with
  | nil => exact List.forall_mem_nil _
  | cons frame frames ih =>
    obtain ⟨⟨_, _, _, _, hround⟩, hframes⟩ := h
    exact List.forall_mem_cons.mpr ⟨Frame.counts_of_lt hround.index_lt_count, ih hframes⟩

theorem Frame.roundOf_of_getElem? {items : List Value} {index : Nat} {item : Value}
    (h : items[index]? = some item) (var : String) :
    Frame.RoundOf items ⟨var, item, index, items.length⟩ :=
  ⟨(List.getElem?_eq_some_iff.mp h).1, rfl, h⟩

-- ---------------------------------------------------------------------------
-- Stages
-- ---------------------------------------------------------------------------

/-- The stack fits the tasks that are left: each task is part of the template, and the frame that
rounds are left for is in a round of their loop. -/
inductive Fits (context : Context) (loops : List (String × Path)) : List Task → List Frame → Prop
  | nil {frames : List Frame} (h : InRounds context loops frames) : Fits context loops [] frames
  | body {nodes : List Node} {tasks : List Task} {frames : List Frame}
    (hloops : Node.loopsOf nodes ⊆ loops) (h : Fits context loops tasks frames) :
    Fits context loops (.body nodes :: tasks) frames
  | rounds {body : List Node} {next : Nat} {tasks : List Task} {frame : Frame}
    {frames : List Frame} {source : Path} {items left : List Value}
    (hloops : Node.loopsOf body ⊆ loops) (hloop : (frame.var, source) ∈ loops)
    (hsource : resolve context frames source = .sequence items) (hround : frame.RoundOf items)
    (hleft : items.drop next = left) (h : Fits context loops tasks frames) :
    Fits context loops (.rounds body next left :: tasks) (frame :: frames)

def Stage.WellFormed (context : Context) (loops : List (String × Path)) (stage : Stage) : Prop :=
  Fits context loops stage.tasks stage.machine.frames

namespace Node

theorem loopsOf_getD (body : Option (List Node)) :
    loopsOf (body.getD []) = loopsOfOptional body := by
  cases body <;> rfl

end Node

section
variable {context : Context} {table : FilterTable} {loops : List (String × Path)}
  {machine : Machine} {task : Task} {tasks : List Task} {frames : List Frame}

theorem Fits.inRounds (h : Fits context loops tasks frames) : InRounds context loops frames := by
  induction h with
  | nil h => exact h
  | body _ _ ih => exact ih
  | rounds _ hloop hsource hround _ _ ih => exact ⟨⟨_, _, hloop, hsource, hround⟩, ih⟩

theorem Fits.after_node (table : FilterTable) (node : Node)
    (h : Fits context loops tasks machine.frames) :
    (Stage.after (Render.node context table node machine) tasks).WellFormed context loops := by
  have hends := Render.writes_node context table machine.frames node machine rfl
  cases hrun : Render.node context table node machine with
  | ok _ next =>
    rw [hrun] at hends
    rwa [← hends.1] at h
  | error error next =>
    rw [hrun] at hends
    rwa [← hends.1] at h

theorem Fits.beginNode {node : Node} (hloops : node.loops ⊆ loops)
    (h : Fits context loops tasks machine.frames) :
    (Stage.beginNode context table machine tasks node).WellFormed context loops := by
  cases node with
  | literal text => exact h.after_node table (.literal text)
  | output path filters offset => exact h.after_node table (.output path filters offset)
  | loop var source body onEmpty =>
    simp only [Node.loops, List.cons_subset, List.append_subset] at hloops
    obtain ⟨hloop, hbody, hempty⟩ := hloops
    have hskip : Fits context loops (.body (onEmpty.getD []) :: tasks) machine.frames :=
      .body (Node.loopsOf_getD onEmpty ▸ hempty) h
    rw [Stage.beginNode]
    cases hsource : resolve context machine.frames source with
    | sequence items =>
      cases items with
      | nil => exact hskip
      | cons first others =>
        exact .rounds hbody hloop hsource (Frame.roundOf_of_getElem? rfl var) rfl h
    | _ => exact hskip
  | choice condition negated body otherwise =>
    simp only [Node.loops, List.append_subset] at hloops
    obtain ⟨hbody, hotherwise⟩ := hloops
    rw [Stage.beginNode]
    split
    · exact .body hbody h
    · exact .body (Node.loopsOf_getD otherwise ▸ hotherwise) h

/-- The loop moves to the element with the number that is next, which is still one of its own. -/
theorem Fits.perform (h : Fits context loops (task :: tasks) machine.frames) :
    (Stage.perform context table machine tasks task).WellFormed context loops := by
  obtain ⟨stack, written, requested⟩ := machine
  cases h with
  | @body nodes _ _ hloops h =>
    cases nodes with
    | nil => exact h
    | cons node nodes =>
      simp only [Node.loopsOf, List.append_subset] at hloops
      exact Fits.beginNode hloops.1 (.body hloops.2 h)
  | @rounds body next _ frame frames source items left hloops hloop hsource hround hleft h =>
    cases left with
    | nil => exact h
    | cons item left =>
      have hitem : items[next]? = some item := by
        have hhead := congrArg List.head? hleft
        rwa [List.head?_drop] at hhead
      have hlater : items.drop (next + 1) = left := by
        rw [← List.tail_drop, hleft, List.tail_cons]
      have hmoved : Frame.RoundOf items { frame with index := next, item } := by
        have hmoved := Frame.roundOf_of_getElem? hitem frame.var
        rwa [← hround.count_eq] at hmoved
      exact .body hloops (.rounds hloops hloop hsource hmoved hlater h)

theorem Fits.abandon (h : Fits context loops (task :: tasks) machine.frames) :
    Fits context loops tasks (task.abandon machine).frames := by
  obtain ⟨stack, written, requested⟩ := machine
  cases h with
  | body _ h => exact h
  | rounds _ _ _ _ _ h => exact h

theorem Stage.WellFormed.step {stage next : Stage} (h : stage.WellFormed context loops)
    (hnext : stage.next? context table = some next) : next.WellFormed context loops := by
  obtain ⟨machine, failure, tasks⟩ := stage
  cases tasks with
  | nil => cases hnext
  | cons task tasks =>
    cases failure with
    | none =>
      cases hnext
      exact Fits.perform h
    | some error =>
      cases hnext
      exact Fits.abandon h

theorem Stage.WellFormed.reaches {stage later : Stage} (h : stage.WellFormed context loops)
    (hlater : Reaches (next? context table) stage later) : later.WellFormed context loops := by
  induction hlater with
  | refl => exact h
  | tail _ hnext ih => exact ih.step hnext

theorem Stage.wellFormed_start (body : List Node) :
    (Stage.start body).WellFormed context (Node.loopsOf body) :=
  .body (List.Subset.refl _) (.nil trivial)

end

-- ---------------------------------------------------------------------------
-- Rounds in order
-- ---------------------------------------------------------------------------

namespace Render

/-- Moving one frame along is the same as putting a new one on the stack for each round, for a body
that leaves the stack as it is. -/
theorem inFrame_eachItem {action : Render Unit} {text : List Frame → Except RenderError String}
    (h : ∀ frames, Writes (· = frames) (text frames) action) (var : String) (count : Nat)
    (items : List Value) (index : Nat) (item : Value) (number : Nat) (machine : Machine) :
    inFrame ⟨var, item, number, count⟩ (eachItem action index items) machine =
      (forM (items.zipIdx index) fun round => inFrame ⟨var, round.1, round.2, count⟩ action)
        machine := by
  induction items generalizing index item number machine with
  | nil => rfl
  | cons first items ih =>
    have hround : eachItem action index (first :: items) (machine.push ⟨var, item, number, count⟩) =
        (action >>= fun _ => eachItem action (index + 1) items)
          (machine.push ⟨var, first, index, count⟩) := rfl
    rw [List.zipIdx_cons, List.forM_cons, inFrame_eq, hround]
    simp only [bind, EStateM.bind, inFrame_eq]
    have hends := h _ (machine.push ⟨var, first, index, count⟩) rfl
    cases hrun : action (machine.push ⟨var, first, index, count⟩) with
    | error error next => rfl
    | ok _ next =>
      -- The body has left the frame of its round on top, so the next round finds it there.
      rw [hrun] at hends
      obtain ⟨stack, written, requested⟩ := next
      obtain rfl : stack = ⟨var, first, index, count⟩ :: machine.frames := hends.1
      have hrest := ih (index + 1) first index ⟨machine.frames, written, requested⟩
      rw [inFrame_eq] at hrest
      exact hrest

theorem node_loop {context : Context} (table : FilterTable) {machine : Machine} {source : Path}
    {items : List Value} (hsource : resolve context machine.frames source = .sequence items)
    (hne : items ≠ []) (var : String) (body : List Node) (onEmpty : Option (List Node)) :
    node context table (.loop var source body onEmpty) machine =
      (forM items.zipIdx fun round =>
        inFrame ⟨var, round.1, round.2, items.length⟩ (nodes context table body)) machine := by
  obtain ⟨first, others, rfl⟩ := List.exists_cons_of_ne_nil hne
  rw [node_loop_eq, hsource]
  exact inFrame_eachItem (fun frames => writes_nodes context table frames body) var _
    (first :: others) 0 first 0 machine

end Render

/-- At every stage of a render, which then goes on to the end that the render as a whole comes to,
each frame on the stack is in a round of its loop. A loop over `n` elements runs its body in one
frame for each of them, in order. And the progress that a template can ask for in any of these
frames fits together. -/
theorem Stage.frames_in_range (context : Context) (table : FilterTable) (body : List Node) :
    (∀ stage, Reaches (next? context table) (start body) stage →
      Reaches (next? context table) stage
        (after (Render.nodes context table body ⟨[], "", []⟩) []) ∧
      InRounds context (Node.loopsOf body) stage.machine.frames ∧
      ∀ frame ∈ stage.machine.frames, frame.Counts) ∧
    ∀ (machine : Machine) (var : String) (source : Path) (inner : List Node)
      (onEmpty : Option (List Node)) (items : List Value),
      resolve context machine.frames source = .sequence items → items ≠ [] →
      Render.node context table (.loop var source inner onEmpty) machine =
        (forM items.zipIdx fun round =>
          Render.inFrame ⟨var, round.1, round.2, items.length⟩
            (Render.nodes context table inner)) machine ∧
      ∀ round ∈ items.zipIdx, Frame.Counts ⟨var, round.1, round.2, items.length⟩ := by
  refine ⟨fun stage hstage => ?_, ?_⟩
  · have hrounds := ((wellFormed_start body).reaches hstage).inRounds
    exact ⟨reaches_end context table hstage, hrounds, hrounds.counts⟩
  · intro machine var source inner onEmpty items hsource hne
    refine ⟨Render.node_loop table hsource hne var inner onEmpty, fun round hround => ?_⟩
    have hitem := List.mem_zipIdx_iff_getElem?.mp hround
    exact Frame.counts_of_lt (Frame.roundOf_of_getElem? hitem var).index_lt_count

theorem Stage.frames_in_range_nested :
    let inner : Node := .loop "y" ⟨"x", []⟩ [.output ⟨"y", []⟩ [] 0] none
    let body : List Node := [.loop "x" ⟨"xs", []⟩ [inner] none]
    let context : Context := [("xs", .sequence [.sequence [.integer 1, .integer 2], .absent])]
    let outer : Frame := ⟨"x", .sequence [.integer 1, .integer 2], 0, 2⟩
    (∃ stage, Reaches (next? context []) (start body) stage ∧
      stage.machine.frames = [⟨"y", .integer 1, 0, 2⟩, outer] ∧
      InRounds context [("x", ⟨"xs", []⟩), ("y", ⟨"x", []⟩)] stage.machine.frames ∧
      Frame.Counts ⟨"y", .integer 1, 0, 2⟩) ∧
    Render.node context [] inner ⟨[outer], "", []⟩ =
      (forM [(.integer 1, 0), (.integer 2, 1)] fun round =>
        Render.inFrame ⟨"y", round.1, round.2, 2⟩
          (Render.nodes context [] [.output ⟨"y", []⟩ [] 0])) ⟨[outer], "", []⟩ := by
  intro inner body context outer
  obtain ⟨hstages, hloops⟩ := frames_in_range context [] body
  refine ⟨?_, (hloops ⟨[outer], "", []⟩ "y" ⟨"x", []⟩ _ none [.integer 1, .integer 2] rfl
    (by simp)).1⟩
  have hreached : Reaches (next? context []) (start body)
      ⟨⟨[⟨"y", .integer 1, 0, 2⟩, outer], "", []⟩, none,
        [.rounds [.output ⟨"y", []⟩ [] 0] 0 [.integer 1, .integer 2], .body [],
          .rounds [inner] 1 [.absent], .body []]⟩ :=
    .head rfl (.head rfl (.head rfl .refl))
  obtain ⟨-, hrounds, hcounts⟩ := hstages _ hreached
  exact ⟨_, hreached, rfl, hrounds, hcounts _ List.mem_cons_self⟩

end Stencil
