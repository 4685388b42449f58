import Stencil.Proofs.Meaning
import Stencil.Proofs.Outcome

/-!
# Chains

Which nodes a render reaches, and how often, depends on the context alone. So a render comes to a
list of chains that is known before the first filter runs: texts, each with the filters that it
goes through. Nodes run as their chains do, one after the other, up to the first chain with a filter
that the table does not have.
-/

namespace Stencil

/-- A text that a render writes once it has gone through filters. -/
structure Chain where
  offset : Nat
  text : String
  filters : List String

-- ---------------------------------------------------------------------------
-- The chains of nodes
-- ---------------------------------------------------------------------------

namespace Node

variable (context : Context)

mutual

def chains : Node → List Frame → List Chain
  | .literal text, _ => [⟨0, text, []⟩]
  | .output path filters offset, frames => [⟨offset, (resolve context frames path).output, filters⟩]
  | .loop var source body onEmpty, frames =>
    match resolve context frames source with
    | .sequence (first :: others) =>
      let items := first :: others
      items.zipIdx.flatMap fun (item, index) =>
        chainsOf body (⟨var, item, index, items.length⟩ :: frames)
    | _ => chainsOfOptional onEmpty frames
  | .choice condition negated body otherwise, frames =>
    if (resolve context frames condition).isTruthy != negated then
      chainsOf body frames
    else
      chainsOfOptional otherwise frames

def chainsOf : List Node → List Frame → List Chain
  | [], _ => []
  | node :: nodes, frames => chains node frames ++ chainsOf nodes frames

def chainsOfOptional : Option (List Node) → List Frame → List Chain
  | none, _ => []
  | some body, frames => chainsOf body frames

end

end Node

-- ---------------------------------------------------------------------------
-- What a table makes of chains
-- ---------------------------------------------------------------------------

def FilterTable.asked (table : FilterTable) (text : String) : List String → List (String × Filter)
  | [] => []
  | name :: names =>
    match table.get? name with
    | none => []
    | some filter => filter.requests text ++ table.asked (filter.change text) names

namespace Chain

def meaning (table : FilterTable) (chain : Chain) : Except RenderError String :=
  table.change chain.offset chain.text chain.filters

def asked (table : FilterTable) (chain : Chain) : List (String × Filter) :=
  table.asked chain.text chain.filters

/-- The filters that chains ask for in turn. Nothing runs after a chain that fails. -/
def askedOf (table : FilterTable) : List Chain → List (String × Filter)
  | [] => []
  | chain :: chains =>
    chain.asked table ++ if (chain.meaning table).isOk then askedOf table chains else []

end Chain

-- ---------------------------------------------------------------------------
-- Steps that do not look at the loops
-- ---------------------------------------------------------------------------

namespace Render

def chains (table : FilterTable) : List Chain → Render Unit
  | [] => pure ()
  | chain :: rest => do
    throughFilters table chain.offset chain.text chain.filters >>= write
    chains table rest

section
variable {α β : Type}

def withFrames (frames : List Frame) :
    EStateM.Result RenderError Machine α → EStateM.Result RenderError Machine α
  | .ok value after => .ok value { after with frames }
  | .error error after => .error error { after with frames }

/-- The step neither looks at the loops nor changes them. -/
def FrameFree (step : Render α) : Prop :=
  ∀ machine frames, step { machine with frames } = withFrames frames (step machine)

theorem FrameFree.pure (value : α) : FrameFree (pure value : Render α) :=
  fun _ _ => rfl

theorem FrameFree.write (text : String) : FrameFree (write text) :=
  fun _ _ => rfl

theorem FrameFree.bind {first : Render α} {second : α → Render β} (hfirst : FrameFree first)
    (hsecond : ∀ value, FrameFree (second value)) : FrameFree (first >>= second) := by
  intro machine frames
  have hf := hfirst machine frames
  simp only [Bind.bind, EStateM.bind]
  cases hrun : first machine with
  | ok value after =>
    rw [hrun] at hf
    simpa only [hf, withFrames] using hsecond value after frames
  | error error after =>
    rw [hrun] at hf
    simp only [hf, withFrames]

theorem FrameFree.withFrames_eq {step : Render α} (h : FrameFree step) (machine : Machine) :
    withFrames machine.frames (step machine) = step machine :=
  (h machine machine.frames).symm

theorem FrameFree.frames_eq {step : Render α} (h : FrameFree step) {machine after : Machine}
    {value : α} (hrun : step machine = .ok value after) : after.frames = machine.frames := by
  have hkept := h.withFrames_eq machine
  rw [hrun, withFrames] at hkept
  injection hkept with _ hafter
  rw [← hafter]

theorem withFrames_withFrames (outer inner : List Frame)
    (result : EStateM.Result RenderError Machine α) :
    withFrames outer (withFrames inner result) = withFrames outer result := by
  cases result <;> rfl

end

variable (table : FilterTable)

theorem frameFree_throughFilters (offset : Nat) (text : String) (names : List String) :
    FrameFree (throughFilters table offset text names) := by
  induction names generalizing text with
  | nil => exact .pure text
  | cons name names ih =>
    rw [throughFilters]
    cases table.get? name with
    | none => exact fun _ _ => rfl
    | some filter => exact .bind (fun _ _ => rfl) fun _ => ih (filter.change text)

theorem frameFree_chains (list : List Chain) : FrameFree (chains table list) := by
  induction list with
  | nil => exact .pure ()
  | cons chain rest ih =>
    exact .bind (.bind (frameFree_throughFilters table _ _ _) .write) fun _ => ih

theorem chains_append (front back : List Chain) :
    chains table (front ++ back) = (do chains table front; chains table back) := by
  induction front with
  | nil => rfl
  | cons chain rest ih => simp only [List.cons_append, chains, ih, bind_assoc]

-- ---------------------------------------------------------------------------
-- Nodes run as their chains
-- ---------------------------------------------------------------------------

section
variable {var : String} {count : Nat} {frames : List Frame} {body : Render Unit}
  {round : Frame → List Chain}

/-- Rounds run as the chains of each round. In the end the loop is in some round, whether or not
one of them failed. -/
theorem eachItem_eq_chains
    (hbody : ∀ frame machine, machine.frames = frame :: frames →
      body machine = chains table (round frame) machine)
    (items : List Value) (index : Nat) {machine : Machine} {item : Value} {before : Nat}
    (hm : machine.frames = ⟨var, item, before, count⟩ :: frames) :
    ∃ last, eachItem body index items machine =
      withFrames (last :: frames) (chains table
        ((items.zipIdx index).flatMap fun (item, index) => round ⟨var, item, index, count⟩)
        machine) := by
  induction items generalizing index machine item before with
  | nil =>
    refine ⟨⟨var, item, before, count⟩, ?_⟩
    rw [← hm]
    exact ((frameFree_chains table []).withFrames_eq machine).symm
  | cons next items ih =>
    let frame : Frame := ⟨var, next, index, count⟩
    have henter : eachItem body index (next :: items) machine =
        (body >>= fun _ => eachItem body (index + 1) items)
          { machine with frames := frame :: frames } := by
      simp [eachItem, enter, hm, bind, EStateM.bind, modify, modifyGet, MonadStateOf.modifyGet,
        EStateM.modifyGet, frame]
    -- the chains of the round do not see that the loop has moved on
    have hround := (hbody frame { machine with frames := frame :: frames } rfl).trans
      (frameFree_chains table (round frame) machine (frame :: frames))
    rw [henter, List.zipIdx_cons, List.flatMap_cons, chains_append]
    simp only [bind, EStateM.bind, hround]
    cases hrun : chains table (round frame) machine with
    | error error after => exact ⟨frame, rfl⟩
    | ok _ after =>
      have hmoved : Machine.frames { after with frames := frame :: frames } =
          ⟨var, next, index, count⟩ :: frames := rfl
      obtain ⟨last, hrest⟩ := ih (index + 1) hmoved
      refine ⟨last, hrest.trans ?_⟩
      rw [frameFree_chains table _ after, withFrames_withFrames]

theorem inFrame_eq_chains {list : List Chain} {frame : Frame} {machine : Machine}
    (h : ∃ last, body { machine with frames := frame :: machine.frames } =
      withFrames (last :: machine.frames)
        (chains table list { machine with frames := frame :: machine.frames })) :
    inFrame frame body machine = chains table list machine := by
  obtain ⟨last, h⟩ := h
  rw [frameFree_chains table list machine, withFrames_withFrames] at h
  have hkept := (frameFree_chains table list).withFrames_eq machine
  unfold inFrame
  rw [h]
  cases hrun : chains table list machine with
  | ok _ after =>
    rw [hrun] at hkept
    exact hkept
  | error error after =>
    rw [hrun] at hkept
    exact hkept

end

variable (context : Context)

mutual

theorem node_eq_chains (tree : Node) (machine : Machine) :
    node context table tree machine =
      chains table (tree.chains context machine.frames) machine := by
  cases tree with
  | literal text => rfl
  | output path filters offset =>
    change (throughFilters table offset (resolve context machine.frames path).output filters >>=
      write) machine = _
    rw [Node.chains, chains, chains]
    exact congrFun (bind_pure_unit (x := _ >>= write)).symm machine
  | loop var source body onEmpty =>
    rw [node, Node.chains]
    change (match resolve context machine.frames source with
      | .sequence (first :: others) =>
        inFrame ⟨var, first, 0, (first :: others).length⟩
          (eachItem (nodes context table body) 0 (first :: others))
      | _ => optional context table onEmpty) machine = _
    cases hs : resolve context machine.frames source with
    | sequence items =>
      cases items with
      | nil => exact optional_eq_chains onEmpty machine
      | cons first others =>
        have hbody : ∀ frame inner, Machine.frames inner = frame :: machine.frames →
            nodes context table body inner =
              chains table (Node.chainsOf context body (frame :: machine.frames)) inner :=
          fun frame inner hi => hi ▸ nodes_eq_chains body inner
        exact inFrame_eq_chains table
          (eachItem_eq_chains table hbody (first :: others) 0 rfl)
    | _ => exact optional_eq_chains onEmpty machine
  | choice condition negated body otherwise =>
    rw [node, Node.chains]
    change (if (resolve context machine.frames condition).isTruthy != negated then
      nodes context table body else optional context table otherwise) machine = _
    split
    · exact nodes_eq_chains body machine
    · exact optional_eq_chains otherwise machine

theorem nodes_eq_chains (body : List Node) (machine : Machine) :
    nodes context table body machine =
      chains table (Node.chainsOf context body machine.frames) machine := by
  cases body with
  | nil => rfl
  | cons first others =>
    have hfirst := node_eq_chains first machine
    rw [nodes, Node.chainsOf, chains_append]
    simp only [bind, EStateM.bind, hfirst]
    cases hrun : chains table (first.chains context machine.frames) machine with
    | error error after => rfl
    | ok _ after =>
      rw [← (frameFree_chains table _).frames_eq hrun]
      exact nodes_eq_chains others after

theorem optional_eq_chains (body : Option (List Node)) (machine : Machine) :
    optional context table body machine =
      chains table (Node.chainsOfOptional context body machine.frames) machine := by
  cases body with
  | none => rfl
  | some body => exact nodes_eq_chains body machine

end

-- ---------------------------------------------------------------------------
-- What chains write and ask for
-- ---------------------------------------------------------------------------

/-- A step ends with the text or the error `text`, and has asked for the filters `new` by then. -/
def Gives (text : Except RenderError String) (new : List (String × Filter)) (before : Machine) :
    EStateM.Result RenderError Machine Unit → Prop :=
  EndsIn
    (fun _ after => ∃ written, text = .ok written ∧ after.written = before.written ++ written ∧
      after.requested = before.requested ++ new)
    (fun error after => text = .error error ∧ after.requested = before.requested ++ new)

theorem Gives.seq {front back : Except RenderError String} {new more : List (String × Filter)}
    {first second : Render Unit} {machine : Machine}
    (hfirst : Gives front new machine (first machine))
    (hsecond : ∀ middle, Gives back more middle (second middle)) :
    Gives (do let a ← front; let b ← back; return a ++ b)
      (new ++ if front.isOk then more else []) machine
      ((first >>= fun _ => second) machine) := by
  refine EndsIn.bind hfirst ?_ ?_
  · rintro _ middle ⟨a, rfl, hwritten, hrequested⟩
    refine EndsIn.mono (hsecond middle) ?_ ?_
    · rintro _ after ⟨b, rfl, hwritten', hrequested'⟩
      exact ⟨a ++ b, rfl, by simp [hwritten', hwritten, String.append_assoc],
        by simp [hrequested', hrequested, Except.isOk, Except.toBool]⟩
    · rintro error after ⟨rfl, hrequested'⟩
      exact ⟨rfl, by simp [hrequested', hrequested, Except.isOk, Except.toBool]⟩
  · rintro error after ⟨rfl, hrequested⟩
    exact ⟨rfl, by simp [hrequested, Except.isOk, Except.toBool]⟩

theorem gives_throughFilters (offset : Nat) (text : String) (names : List String)
    (machine : Machine) :
    Gives (table.change offset text names) (table.asked text names) machine
      ((throughFilters table offset text names >>= write) machine) := by
  induction names generalizing text machine with
  | nil => exact ⟨text, rfl, rfl, (List.append_nil _).symm⟩
  | cons name names ih =>
    cases hf : table.get? name with
    | none =>
      simp only [throughFilters, FilterTable.change, FilterTable.asked, hf]
      exact ⟨rfl, (List.append_nil _).symm⟩
    | some filter =>
      simp only [throughFilters, FilterTable.change, FilterTable.asked, hf, bind_assoc]
      refine EndsIn.mono (ih (filter.change text)
        { machine with requested := machine.requested ++ filter.requests text }) ?_ ?_
      · rintro _ after ⟨written, htext, hwritten, hrequested⟩
        exact ⟨written, htext, hwritten, by simp [hrequested]⟩
      · rintro error after ⟨htext, hrequested⟩
        exact ⟨htext, by simp [hrequested]⟩

theorem gives_chains (list : List Chain) (machine : Machine) :
    Gives (concat (list.map (Chain.meaning table))) (Chain.askedOf table list) machine
      (chains table list machine) := by
  induction list generalizing machine with
  | nil => exact ⟨"", rfl, String.append_empty.symm, (List.append_nil _).symm⟩
  | cons chain rest ih =>
    rw [List.map_cons, concat, Chain.askedOf]
    exact (gives_throughFilters table chain.offset chain.text chain.filters machine).seq ih

end Render

/-- A render writes the texts of its chains, and asks for the filters that they ask for. -/
theorem renderNodes_eq_chains (context : Context) (table : FilterTable) (body : List Node) :
    renderNodes context table body =
      ⟨concat ((Node.chainsOf context body []).map (Chain.meaning table)),
        Chain.askedOf table (Node.chainsOf context body [])⟩ := by
  have hgives := Render.gives_chains table (Node.chainsOf context body []) ⟨[], "", []⟩
  unfold renderNodes
  rw [Render.nodes_eq_chains]
  cases hrun : Render.chains table (Node.chainsOf context body []) ⟨[], "", []⟩ with
  | ok _ after =>
    rw [hrun] at hgives
    obtain ⟨written, htext, hwritten, hrequested⟩ := hgives
    simp [htext, hwritten, hrequested]
  | error error after =>
    rw [hrun] at hgives
    simp [hgives.1, hgives.2]

theorem renderNodes_eq (context : Context) (table : FilterTable) (body : List Node) :
    renderNodes context table body =
      ⟨Node.meaningOf context table body [],
        Chain.askedOf table (Node.chainsOf context body [])⟩ := by
  rw [← renderNodes_result, renderNodes_eq_chains]

end Stencil
