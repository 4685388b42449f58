import Stencil.Proofs.Reads
import Stencil.Proofs.Scopes

/-!
# Positions of outer loops

Only the innermost loop says how far it is. Of the loops outside it nothing can be read but their
variables, so their rounds do not show in what is written. A loop whose body is one loop and nothing
else writes for each element a text that depends on no round at all: where the inner loop looks up
its sequence the outer one still speaks of its progress, but no progress is a sequence.
-/

namespace Stencil

-- ---------------------------------------------------------------------------
-- Progress
-- ---------------------------------------------------------------------------

namespace Value

/-- Whether no steps lead from a value to a sequence. -/
def NoSequence (value : Value) : Prop :=
  ∀ segments items, value.lookup segments ≠ .sequence items

theorem noSequence_absent : NoSequence absent := by
  intro segments items
  rw [lookup_absent]
  exact nofun

theorem noSequence_of_step? {value : Value} (hvalue : ∀ items, value ≠ .sequence items)
    (hstep : ∀ segment, NoSequence ((value.step? segment).getD .absent)) : NoSequence value := by
  intro segments items
  cases segments with
  | nil => exact hvalue items
  | cons segment segments =>
    rw [lookup_cons]
    exact hstep segment segments items

theorem noSequence_boolean (value : Bool) : NoSequence (.boolean value) :=
  noSequence_of_step? nofun fun _ => noSequence_absent

theorem noSequence_integer (value : Int) : NoSequence (.integer value) :=
  noSequence_of_step? nofun fun _ => noSequence_absent

theorem noSequence_get? {entries : Entries Value} (h : ∀ entry ∈ entries, NoSequence entry.2)
    (name : String) : NoSequence ((entries.get? name).getD .absent) := by
  induction entries with
  | nil => exact noSequence_absent
  | cons entry entries ih =>
    obtain ⟨other, value⟩ := entry
    obtain ⟨hvalue, hentries⟩ := List.forall_mem_cons.mp h
    rw [Entries.get?_cons]
    split
    · exact hvalue
    · exact ih hentries

end Value

open Value

theorem Frame.noSequence_of_mem_progress (frame : Frame) :
    ∀ entry ∈ frame.progress, NoSequence entry.2 := by
  simp [progress, noSequence_boolean, noSequence_integer]

theorem Frame.Tells.noSequence {frame : Frame} {name : String} {value : Value}
    (h : frame.Tells name value) : NoSequence value := by
  cases h with
  | all =>
    exact noSequence_of_step? nofun fun segment =>
      noSequence_get? frame.noSequence_of_mem_progress segment
  | bare _ hvalue => simpa [hvalue] using noSequence_get? frame.noSequence_of_mem_progress name

/-- Inside a loop a path means the same in every round over one element, unless it leads to no
sequence in any. -/
theorem resolve_of_rounds (context : Context) (frames : List Frame) (var : String) (item : Value)
    (path : Path) :
    (∃ value, ∀ index count,
      resolve context (⟨var, item, index, count⟩ :: frames) path = value) ∨
    ∀ index count items,
      resolve context (⟨var, item, index, count⟩ :: frames) path ≠ .sequence items := by
  by_cases hvar : var = path.head
  · refine .inl ⟨item.lookup path.rest, fun index count => ?_⟩
    simp [resolve_eq, valueOf, hvar]
  by_cases hprogress : path.head = Frame.progressName ∨ path.head ∈ Frame.bareNames
  · refine .inr fun index count items => ?_
    cases hp : Frame.progress? ⟨var, item, index, count⟩ path.head with
    | some value =>
      have htells := Frame.progress?_eq_some_iff.mp hp
      simpa [resolve_eq, valueOf, hvar, hp] using htells.noSequence path.rest items
    | none =>
      obtain ⟨hname, hbare⟩ := Frame.progress?_eq_none_iff.mp hp
      exact (hprogress.elim hname hbare).elim
  · obtain ⟨hname, hbare⟩ := not_or.mp hprogress
    refine .inl ⟨((valueOutside context path.head frames).getD .absent).lookup path.rest,
      fun index count => ?_⟩
    simp [resolve_eq, valueOf, hvar, Frame.progress?_eq_none_iff.mpr ⟨hname, hbare⟩]

-- ---------------------------------------------------------------------------
-- Outer loops
-- ---------------------------------------------------------------------------

/-- What can be read of a loop that is not the innermost. -/
def Frame.binding (frame : Frame) : String × Value :=
  (frame.var, frame.item)

theorem valueOutside_of_bindings (context : Context) (name : String) {frames others : List Frame}
    (h : frames.map Frame.binding = others.map Frame.binding) :
    valueOutside context name frames = valueOutside context name others := by
  induction frames generalizing others with
  | nil =>
    obtain rfl := List.map_eq_nil_iff.mp h.symm
    rfl
  | cons frame frames ih =>
    obtain ⟨other, others, rfl, hbinding, hothers⟩ := List.map_eq_cons_iff.mp h.symm
    obtain ⟨hvar, hitem⟩ := Prod.mk.inj hbinding
    simp only [valueOutside, hvar, hitem, ih hothers.symm]

theorem outerAgree_of_bindings (context : Context) {frames others : List Frame}
    (h : frames.map Frame.binding = others.map Frame.binding) :
    OuterAgree id (fun _ => True) context context frames others := by
  intro name _
  rw [id, valueOutside_of_bindings context name h]

namespace Node

variable (context : Context) (table : FilterTable)

theorem meaning_loop_of_not_sequence {frames : List Frame} {source : Path}
    (h : ∀ items, resolve context frames source ≠ .sequence items) (var : String)
    (body : List Node) (onEmpty : Option (List Node)) :
    meaning context table (.loop var source body onEmpty) frames =
      meaningOfOptional context table onEmpty frames := by
  rw [meaning]
  split
  · next first others hs => exact (h _ hs).elim
  · rfl

theorem meaning_loop_of_rounds (var inner : String) (source : Path) (body : List Node)
    (frames : List Frame) (item : Value) (index count index' count' : Nat) :
    meaning context table (.loop inner source body none) (⟨var, item, index, count⟩ :: frames) =
      meaning context table (.loop inner source body none)
        (⟨var, item, index', count'⟩ :: frames) := by
  rcases resolve_of_rounds context frames var item source with ⟨value, hvalue⟩ | hnone
  · refine meaning_loop_congr ?_ ?_ rfl
    · rw [hvalue, hvalue]
    · -- Inside the inner loop the rounds of the outer one can no longer be read.
      intro element element' number total helement
      have houter : OuterAgree id (fun _ => True) context context
          (⟨var, item, index, count⟩ :: frames) (⟨var, item, index', count'⟩ :: frames) :=
        outerAgree_of_bindings context rfl
      exact meaningOf_of_agree body (houter.push_id inner helement number total) fun _ _ => trivial
  · rw [meaning_loop_of_not_sequence context table (hnone index count),
      meaning_loop_of_not_sequence context table (hnone index' count')]
    rfl

end Node

namespace Render

/-- The rounds of outer loops do not show. Nodes write the same inside two stacks of loops that have
the same innermost frame, and outside it the same variables and elements. And a loop whose body is
one loop without a body for nothing has a text for each element: it writes this text in every round
over the element, whatever the number of the round and of all rounds, and all in all these texts
one after the other. -/
theorem outcome_of_outer_rounds (context : Context) (table : FilterTable) :
    (∀ (body : List Node) (innermost : Frame) (outer others : List Frame) (machine : Machine),
      outer.map Frame.binding = others.map Frame.binding →
      outcome (nodes context table body) { machine with frames := innermost :: outer } =
        outcome (nodes context table body) { machine with frames := innermost :: others }) ∧
    ∀ (frames : List Frame) (var inner : String) (source : Path) (body : List Node),
      ∃ text : Value → Except RenderError String,
        (∀ (item : Value) (index count : Nat) (machine : Machine),
          machine.frames = ⟨var, item, index, count⟩ :: frames →
          outcome (nodes context table [.loop inner source body none]) machine =
            (text item).map (machine.written ++ ·)) ∧
        ∀ (list : Path) (onEmpty : Option (List Node)) (items : List Value) (machine : Machine),
          machine.frames = frames → resolve context frames list = .sequence items → items ≠ [] →
          outcome (node context table (.loop var list [.loop inner source body none] onEmpty))
              machine =
            (concat (items.map text)).map (machine.written ++ ·) := by
  refine ⟨fun body innermost outer others machine h => ?_,
    fun frames var inner source body => ?_⟩
  · have hagree := (outerAgree_of_bindings context h).push_id innermost.var (.refl innermost.item)
      innermost.index innermost.count
    rw [outcome_nodes, outcome_nodes, Node.meaningOf_of_agree body hagree fun _ _ => trivial]
  · let text (item : Value) : Except RenderError String :=
      Node.meaningOf context table [.loop inner source body none] (⟨var, item, 0, 0⟩ :: frames)
    have htext : ∀ item index count,
        Node.meaningOf context table [.loop inner source body none]
          (⟨var, item, index, count⟩ :: frames) = text item := by
      intro item index count
      simp only [text, Node.meaningOf,
        Node.meaning_loop_of_rounds context table var inner source body frames item index count 0 0]
    refine ⟨text, fun item index count machine hm => ?_,
      fun list onEmpty items machine hm hlist hne => ?_⟩
    · rw [outcome_nodes, hm, htext]
    · obtain ⟨first, rest, rfl⟩ := List.exists_cons_of_ne_nil hne
      rw [outcome_node, hm, Node.meaning, hlist]
      simp only [htext]
      have hrounds : ((first :: rest).zipIdx.map fun round => text round.1) =
          (first :: rest).map text := by
        conv_rhs => rw [← List.zipIdx_map_fst 0 (first :: rest), List.map_map]
        rfl
      exact congrArg (fun texts => (concat texts).map (machine.written ++ ·)) hrounds

/-- Inside the loop over `y` the loop over `x` may be in its first round of three or in its third of
five. Where it is the innermost one, no round shows either: the texts of its two elements are all
that it writes. -/
theorem outcome_of_outer_rounds_nested :
    let context : Context := [("xs", .sequence [.string "a", .string "b"]),
      ("ys", .sequence [.integer 7, .integer 8])]
    let body : List Node := [.output ⟨"x", []⟩ [] 0, .output ⟨"index", []⟩ [] 10]
    let inner : Node := .loop "y" ⟨"ys", []⟩ body none
    let innermost : Frame := ⟨"y", .integer 8, 1, 2⟩
    (outcome (nodes context [] body) ⟨[innermost, ⟨"x", .string "a", 0, 3⟩], "", []⟩ =
        outcome (nodes context [] body) ⟨[innermost, ⟨"x", .string "a", 2, 5⟩], "", []⟩) ∧
      ∃ text : Value → Except RenderError String,
        outcome (nodes context [] [inner]) ⟨[⟨"x", .string "a", 2, 5⟩], "", []⟩ =
          (text (.string "a")).map ("" ++ ·) ∧
        outcome (node context [] (.loop "x" ⟨"xs", []⟩ [inner] none)) ⟨[], "", []⟩ =
          (concat [text (.string "a"), text (.string "b")]).map ("" ++ ·) := by
  intro context body inner innermost
  obtain ⟨houter, htexts⟩ := outcome_of_outer_rounds context []
  obtain ⟨text, hround, hlist⟩ := htexts [] "x" "y" ⟨"ys", []⟩ body
  refine ⟨?_, text, hround (.string "a") 2 5 ⟨_, "", []⟩ rfl, ?_⟩
  · exact houter body innermost [⟨"x", .string "a", 0, 3⟩] [⟨"x", .string "a", 2, 5⟩]
      ⟨[], "", []⟩ rfl
  · exact hlist ⟨"xs", []⟩ none [.string "a", .string "b"] ⟨[], "", []⟩ rfl rfl (by simp)

end Render

end Stencil
