import Mathlib
import Stencil.Template

/-!
# The meaning of a template

What a node writes, said without a machine: a text or the error that stops it, by recursion on the
node, in the loops that are around it. There is nothing here to put back and nothing written
before. What the names in a node stand for is a relation of its own, which says what hides what; a
path has the value that its rest leads to from there. The main statement is that the machine
computes this meaning. Whatever has been written so far, nodes leave the stack of loops as it was,
also when they stop with an error, and append the text of their meaning.
-/

namespace Stencil

-- ---------------------------------------------------------------------------
-- Names
-- ---------------------------------------------------------------------------

namespace Frame

/-- What a loop says of its progress under a name: all of it under one name, parts under others. -/
inductive Tells (frame : Frame) : String → Value → Prop
  | all : frame.Tells progressName (.mapping frame.progress)
  | bare {name : String} {value : Value} (hname : name ∈ bareNames)
      (hvalue : frame.progress.get? name = some value) : frame.Tells name value

variable {frame : Frame} {name : String} {value : Value}

theorem progress?_eq_some_iff : frame.progress? name = some value ↔ frame.Tells name value := by
  unfold progress?
  constructor
  · intro h
    split at h
    · next hname =>
      cases h
      exact hname ▸ .all
    · split at h
      · next hbare => exact .bare hbare h
      · cases h
  · rintro (_ | ⟨hbare, hvalue⟩)
    · simp
    · have hname : name ≠ progressName := by
        rintro rfl
        exact absurd hbare (by decide)
      rw [if_neg hname, if_pos hbare, hvalue]

theorem progress?_eq_none_iff :
    frame.progress? name = none ↔ name ≠ progressName ∧ name ∉ bareNames := by
  constructor
  · intro h
    unfold progress? at h
    split at h
    · cases h
    · next hname =>
      refine ⟨hname, fun hbare => ?_⟩
      rw [if_pos hbare] at h
      simp only [bareNames, List.mem_cons, List.not_mem_nil, or_false] at hbare
      rcases hbare with rfl | rfl | rfl | rfl <;> simp [progress, Entries.get?_cons] at h
  · rintro ⟨hname, hbare⟩
    simp [progress?, hname, hbare]

theorem forall_not_tells_iff :
    (∀ value, ¬frame.Tells name value) ↔ frame.progress? name = none := by
  simp only [← progress?_eq_some_iff]
  exact Option.eq_none_iff_forall_ne_some.symm

end Frame

/-- What a name stands for inside the loops `frames`, innermost first. The variable of the innermost
loop hides its progress, which hides the variables of the loops outside it, of which the nearest
hides the others, and all of these hide the entry of the context. -/
inductive StandsFor (context : Context) (name : String) : List Frame → Value → Prop
  | innermost {inner : Frame} {frames : List Frame} (hvar : inner.var = name) :
      StandsFor context name (inner :: frames) inner.item
  | progress {inner : Frame} {frames : List Frame} {value : Value} (hvar : inner.var ≠ name)
      (htells : inner.Tells name value) : StandsFor context name (inner :: frames) value
  | outer {inner frame : Frame} {nearer farther : List Frame}
      (hnearer : ∀ near ∈ inner :: nearer, near.var ≠ name)
      (htells : ∀ value, ¬inner.Tells name value) (hvar : frame.var = name) :
      StandsFor context name (inner :: (nearer ++ frame :: farther)) frame.item
  | entry {frames : List Frame} {value : Value} (hvars : ∀ frame ∈ frames, frame.var ≠ name)
      (htells : ∀ inner ∈ frames.head?, ∀ value, ¬inner.Tells name value)
      (hentry : context.get? name = some value) : StandsFor context name frames value

section
variable {context : Context} {name : String} {frames : List Frame} {value : Value}

theorem valueOutside_eq_find? : valueOutside context name frames =
    ((frames.find? (·.var == name)).map Frame.item).or (context.get? name) := by
  induction frames with
  | nil => rfl
  | cons frame frames ih =>
    by_cases hvar : frame.var = name
    · simp [valueOutside, hvar]
    · simp [valueOutside, hvar, ih]

theorem StandsFor.valueOf_eq (h : StandsFor context name frames value) :
    valueOf context name frames = some value := by
  cases h with
  | innermost hvar => simp [valueOf, hvar]
  | progress hvar htells => simp [valueOf, hvar, Frame.progress?_eq_some_iff.mpr htells]
  | @outer inner frame nearer farther hnearer htells hvar =>
    obtain ⟨hinner, hnearer⟩ := List.forall_mem_cons.mp hnearer
    have hfind : (nearer ++ frame :: farther).find? (·.var == name) = some frame :=
      List.find?_eq_some_iff_append.mpr
        ⟨by simpa using hvar, nearer, farther, rfl, by simpa using hnearer⟩
    simp [valueOf, hinner, Frame.forall_not_tells_iff.mp htells, valueOutside_eq_find?, hfind]
  | entry hvars htells hentry =>
    cases frames with
    | nil => exact hentry
    | cons inner frames =>
      obtain ⟨hinner, hothers⟩ := List.forall_mem_cons.mp hvars
      have hfind : frames.find? (·.var == name) = none :=
        List.find?_eq_none.mpr (by simpa using hothers)
      have hsilent := Frame.forall_not_tells_iff.mp (htells inner rfl)
      simp [valueOf, hinner, hsilent, valueOutside_eq_find?, hfind, hentry]

theorem standsFor_of_valueOf (h : valueOf context name frames = some value) :
    StandsFor context name frames value := by
  cases frames with
  | nil => exact .entry (List.forall_mem_nil _) nofun h
  | cons inner frames =>
    by_cases hvar : inner.var = name
    · obtain rfl : inner.item = value := by simpa [valueOf, hvar] using h
      exact .innermost hvar
    cases hprogress : inner.progress? name with
    | some told =>
      obtain rfl : told = value := by simpa [valueOf, hvar, hprogress] using h
      exact .progress hvar (Frame.progress?_eq_some_iff.mp hprogress)
    | none =>
      have hsilent := Frame.forall_not_tells_iff.mpr hprogress
      have houtside : valueOutside context name frames = some value := by
        simpa [valueOf, hvar, hprogress] using h
      rw [valueOutside_eq_find?] at houtside
      cases hfind : frames.find? (·.var == name) with
      | some frame =>
        obtain ⟨hframe, nearer, farther, rfl, hnearer⟩ := List.find?_eq_some_iff_append.mp hfind
        obtain rfl : frame.item = value := by simpa [hfind] using houtside
        exact .outer (List.forall_mem_cons.mpr ⟨hvar, by simpa using hnearer⟩) hsilent
          (by simpa using hframe)
      | none =>
        have hothers : ∀ frame ∈ frames, frame.var ≠ name := by
          simpa using List.find?_eq_none.mp hfind
        refine .entry (List.forall_mem_cons.mpr ⟨hvar, hothers⟩) ?_ (by simpa [hfind] using houtside)
        rintro _ ⟨rfl⟩
        exact hsilent

theorem valueOf_eq_some_iff :
    valueOf context name frames = some value ↔ StandsFor context name frames value :=
  ⟨standsFor_of_valueOf, StandsFor.valueOf_eq⟩

/-- A path has the value that its rest leads to from what its head stands for, and none if that is
nothing. -/
theorem resolve_eq_iff {path : Path} : resolve context frames path = value ↔
    (∃ base, StandsFor context path.head frames base ∧ base.lookup path.rest = value) ∨
    (∀ base, ¬StandsFor context path.head frames base) ∧ value = .absent := by
  simp only [← valueOf_eq_some_iff]
  unfold resolve
  cases valueOf context path.head frames with
  | none => simp [eq_comm]
  | some base => simp

end

-- ---------------------------------------------------------------------------
-- The meaning
-- ---------------------------------------------------------------------------

def concat : List (Except RenderError String) → Except RenderError String
  | [] => .ok ""
  | text :: texts => do
    let front ← text
    let back ← concat texts
    return front ++ back

def FilterTable.change (table : FilterTable) (offset : Nat) (text : String) :
    List String → Except RenderError String
  | [] => .ok text
  | name :: names =>
    match table.get? name with
    | none => .error (.unknownFilter name offset)
    | some filter => table.change offset (filter.change text) names

namespace Node

variable (context : Context) (table : FilterTable)

mutual

/-- What a node writes inside the loops `frames`, innermost first. -/
def meaning : Node → List Frame → Except RenderError String
  | .literal text, _ => .ok text
  | .output path filters offset, frames =>
    table.change offset (resolve context frames path).output filters
  | .loop var source body onEmpty, frames =>
    match resolve context frames source with
    | .sequence (first :: others) =>
      let items := first :: others
      concat (items.zipIdx.map fun (item, index) =>
        meaningOf body (⟨var, item, index, items.length⟩ :: frames))
    | _ => meaningOfOptional onEmpty frames
  | .choice condition negated body otherwise, frames =>
    if (resolve context frames condition).isTruthy != negated then
      meaningOf body frames
    else
      meaningOfOptional otherwise frames

def meaningOf : List Node → List Frame → Except RenderError String
  | [], _ => .ok ""
  | node :: nodes, frames => do
    let front ← meaning node frames
    let back ← meaningOf nodes frames
    return front ++ back

def meaningOfOptional : Option (List Node) → List Frame → Except RenderError String
  | none, _ => .ok ""
  | some body, frames => meaningOf body frames

end

end Node

section
variable {front back : Except RenderError String}

theorem seq_empty (text : Except RenderError String) :
    (do let a ← Except.ok ""; let b ← text; return a ++ b) = text := by
  cases text with
  | error error => rfl
  | ok text => exact congrArg Except.ok String.empty_append

theorem seq_assoc (first second third : Except RenderError String) :
    (do
      let a ← (do let a ← first; let b ← second; return a ++ b)
      let b ← third
      return a ++ b) =
      (do
        let a ← first
        let b ← (do let a ← second; let b ← third; return a ++ b)
        return a ++ b) := by
  cases first with
  | error error => rfl
  | ok a =>
    cases second with
    | error error => rfl
    | ok b =>
      cases third with
      | error error => rfl
      | ok c => exact congrArg Except.ok String.append_assoc

theorem seq_eq_error {error : RenderError}
    (h : (do let a ← front; let b ← back; return a ++ b) = .error error) :
    front = .error error ∨ back = .error error := by
  cases front with
  | error first => exact .inl h
  | ok a =>
    cases back with
    | error later => exact .inr h
    | ok b => cases h

theorem mapError_seq (f : RenderError → RenderError) :
    (do let a ← front.mapError f; let b ← back.mapError f; return a ++ b) =
      (do let a ← front; let b ← back; return a ++ b).mapError f := by
  cases front with
  | error first => rfl
  | ok a => cases back <;> rfl

end

-- ---------------------------------------------------------------------------
-- Steps of the machine
-- ---------------------------------------------------------------------------

namespace Render

/-- How a step that has the meaning `text` ends: the loops are still as `inside` says, and what was
written is followed by the text, or the step stops with the error. -/
def Ends (inside : List Frame → Prop) (text : Except RenderError String) (before : Machine) :
    EStateM.Result RenderError Machine Unit → Prop
  | .ok () after =>
    inside after.frames ∧ ∃ new, text = .ok new ∧ after.written = before.written ++ new
  | .error error after => inside after.frames ∧ text = .error error

/-- Wherever the loops are as `inside` says, a step has the meaning `text` and keeps them so. -/
def Writes (inside : List Frame → Prop) (text : Except RenderError String) (step : Render Unit) :
    Prop :=
  ∀ machine, inside machine.frames → Ends inside text machine (step machine)

section
variable {inside : List Frame → Prop}

theorem writes_pure : Writes inside (.ok "") (pure ()) :=
  fun _ hm => ⟨hm, "", rfl, by simp⟩

theorem writes_write (text : String) : Writes inside (.ok text) (write text) :=
  fun _ hm => ⟨hm, text, rfl, rfl⟩

theorem Writes.seq {front back : Except RenderError String} {first second : Render Unit}
    (hfirst : Writes inside front first) (hsecond : Writes inside back second) :
    Writes inside (do let a ← front; let b ← back; return a ++ b) (first >>= fun _ => second) := by
  intro machine hm
  have hf := hfirst machine hm
  simp only [bind, EStateM.bind]
  cases hrun : first machine with
  | error error after =>
    rw [hrun] at hf
    obtain ⟨hin, rfl⟩ := hf
    exact ⟨hin, rfl⟩
  | ok _ middle =>
    rw [hrun] at hf
    obtain ⟨hin, a, rfl, hwritten⟩ := hf
    have hs := hsecond middle hin
    simp only
    cases hrun' : second middle with
    | error error after =>
      rw [hrun'] at hs
      obtain ⟨hin', rfl⟩ := hs
      exact ⟨hin', rfl⟩
    | ok _ after =>
      rw [hrun'] at hs
      obtain ⟨hin', b, rfl, hwritten'⟩ := hs
      exact ⟨hin', a ++ b, rfl, by rw [hwritten', hwritten, String.append_assoc]⟩

theorem writes_get {text : Except RenderError String} {step : Machine → Render Unit}
    (h : ∀ machine, inside machine.frames → Writes inside text (step machine)) :
    Writes inside text (get >>= step) :=
  fun machine hm => h machine hm machine hm

/-- Filters may ask for other filters while they work. Nothing that is written depends on it. -/
theorem writes_throughFilters (table : FilterTable) (offset : Nat) (text : String)
    (names : List String) :
    Writes inside (table.change offset text names)
      (throughFilters table offset text names >>= write) := by
  induction names generalizing text with
  | nil => exact writes_write text
  | cons name names ih =>
    intro machine hm
    cases hf : table.get? name with
    | none =>
      simp only [throughFilters, FilterTable.change, hf]
      exact ⟨hm, rfl⟩
    | some filter =>
      simp only [throughFilters, FilterTable.change, hf]
      exact ih (filter.change text)
        { machine with requested := machine.requested ++ filter.requests text } hm

end

-- ---------------------------------------------------------------------------
-- Loops
-- ---------------------------------------------------------------------------

def InRound (var : String) (count : Nat) (frames stack : List Frame) : Prop :=
  ∃ item index, stack = ⟨var, item, index, count⟩ :: frames

section
variable {var : String} {count : Nat} {frames : List Frame} {body : Render Unit}
  {round : Frame → Except RenderError String}

theorem writes_enter (item : Value) (index : Nat)
    (hbody : Writes (· = ⟨var, item, index, count⟩ :: frames) (round ⟨var, item, index, count⟩)
      body) :
    Writes (InRound var count frames) (round ⟨var, item, index, count⟩)
      (enter index item >>= fun _ => body) := by
  rintro machine ⟨item', index', hm⟩
  have hrun : (enter index item >>= fun _ => body) machine =
      body { machine with frames := ⟨var, item, index, count⟩ :: frames } := by
    simp [enter, hm, bind, EStateM.bind, modify, modifyGet, MonadStateOf.modifyGet,
      EStateM.modifyGet]
  have hb := hbody { machine with frames := ⟨var, item, index, count⟩ :: frames } rfl
  rw [hrun]
  cases hr : body { machine with frames := ⟨var, item, index, count⟩ :: frames } with
  | ok _ after =>
    rw [hr] at hb
    exact ⟨⟨item, index, hb.1⟩, hb.2⟩
  | error error after =>
    rw [hr] at hb
    exact ⟨⟨item, index, hb.1⟩, hb.2⟩

theorem writes_eachItem
    (hbody : ∀ frame : Frame, Writes (· = frame :: frames) (round frame) body)
    (items : List Value) (index : Nat) :
    Writes (InRound var count frames)
      (concat ((items.zipIdx index).map fun (item, index) => round ⟨var, item, index, count⟩))
      (eachItem body index items) := by
  induction items generalizing index with
  | nil => exact writes_pure
  | cons item items ih =>
    have hround := writes_enter item index (hbody ⟨var, item, index, count⟩)
    rw [List.zipIdx_cons, List.map_cons, concat]
    simpa only [eachItem, bind_assoc] using hround.seq (ih (index + 1))

theorem writes_inFrame {text : Except RenderError String} {step : Render Unit} (item : Value)
    (index : Nat) (h : Writes (InRound var count frames) text step) :
    Writes (· = frames) text (inFrame ⟨var, item, index, count⟩ step) := by
  rintro machine rfl
  have hs := h { machine with frames := ⟨var, item, index, count⟩ :: machine.frames }
    ⟨item, index, rfl⟩
  unfold inFrame
  cases hr : step { machine with frames := ⟨var, item, index, count⟩ :: machine.frames } with
  | ok _ after =>
    rw [hr] at hs
    obtain ⟨⟨item', index', hframes⟩, htext⟩ := hs
    exact ⟨by simp [hframes], htext⟩
  | error error after =>
    rw [hr] at hs
    obtain ⟨⟨item', index', hframes⟩, htext⟩ := hs
    exact ⟨by simp [hframes], htext⟩

end

-- ---------------------------------------------------------------------------
-- Nodes
-- ---------------------------------------------------------------------------

section
variable (context : Context) (table : FilterTable)

mutual

theorem writes_node (frames : List Frame) (tree : Node) :
    Writes (· = frames) (tree.meaning context table frames) (node context table tree) := by
  cases tree with
  | literal text => exact writes_write text
  | output path filters offset =>
    refine writes_get fun machine hm => ?_
    rw [hm]
    exact writes_throughFilters table offset _ filters
  | loop var source body onEmpty =>
    refine writes_get fun machine hm => ?_
    rw [hm, Node.meaning]
    cases hs : resolve context frames source with
    | sequence items =>
      cases items with
      | nil => exact writes_optional frames onEmpty
      | cons first others =>
        have hbody : ∀ frame : Frame, Writes (· = frame :: frames)
            (Node.meaningOf context table body (frame :: frames)) (nodes context table body) :=
          fun frame => writes_nodes (frame :: frames) body
        exact writes_inFrame first 0 (writes_eachItem hbody (first :: others) 0)
    | _ => exact writes_optional frames onEmpty
  | choice condition negated body otherwise =>
    refine writes_get fun machine hm => ?_
    rw [hm, Node.meaning]
    split
    · exact writes_nodes frames body
    · exact writes_optional frames otherwise

theorem writes_nodes (frames : List Frame) (body : List Node) :
    Writes (· = frames) (Node.meaningOf context table body frames) (nodes context table body) := by
  cases body with
  | nil => exact writes_pure
  | cons first others => exact (writes_node frames first).seq (writes_nodes frames others)

theorem writes_optional (frames : List Frame) (body : Option (List Node)) :
    Writes (· = frames) (Node.meaningOfOptional context table body frames)
      (optional context table body) := by
  cases body with
  | none => exact writes_pure
  | some body => exact writes_nodes frames body

end

end

end Render

/-- Nodes run on any machine leave its loops as they are. If they end well, what had been written is
followed by their meaning; if not, their meaning is the error. -/
theorem nodes_refines_meaning (context : Context) (table : FilterTable) (body : List Node)
    (machine : Machine) :
    match Render.nodes context table body machine with
    | .ok () after =>
      after.frames = machine.frames ∧
        ∃ text, Node.meaningOf context table body machine.frames = .ok text ∧
          after.written = machine.written ++ text
    | .error error after =>
      after.frames = machine.frames ∧
        Node.meaningOf context table body machine.frames = .error error := by
  have h := Render.writes_nodes context table machine.frames body machine rfl
  cases hrun : Render.nodes context table body machine with
  | ok _ after =>
    rw [hrun] at h
    exact h
  | error error after =>
    rw [hrun] at h
    exact h

/-- A render from an empty machine gives the meaning outside every loop. -/
theorem renderNodes_result (context : Context) (table : FilterTable) (body : List Node) :
    (renderNodes context table body).result = Node.meaningOf context table body [] := by
  have h := Render.writes_nodes context table [] body ⟨[], "", []⟩ rfl
  unfold renderNodes
  cases hrun : Render.nodes context table body ⟨[], "", []⟩ with
  | ok _ after =>
    rw [hrun] at h
    obtain ⟨-, text, htext, hwritten⟩ := h
    simp [htext, hwritten]
  | error error after =>
    rw [hrun] at h
    simp [h.2]

end Stencil
