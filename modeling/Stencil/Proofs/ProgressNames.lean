import Stencil.Proofs.Reads
import Stencil.Proofs.Scopes

/-!
# Names of progress

The innermost loop says how far it is under names of their own, and under the same names as parts
of one value that has a name itself. A path that begins with a name of the first kind can be
qualified: the name of the whole is put in front. Inside a loop whose variable hides neither name
this changes nothing, whatever the loops outside it and the context bind.
-/

namespace Stencil

-- ---------------------------------------------------------------------------
-- Paths
-- ---------------------------------------------------------------------------

/-- Whether a name is one that a loop over `var` answers with its progress, and would also do so if
the name was qualified. -/
def Frame.Answers (var name : String) : Prop :=
  name ∈ bareNames ∧ var ≠ name ∧ var ≠ progressName

instance (var name : String) : Decidable (Frame.Answers var name) :=
  inferInstanceAs (Decidable (_ ∧ _ ∧ _))

/-- A path in a place where the innermost loop, if any, has the variable `innermost`: as it is, or
qualified. -/
inductive Path.Qualifies (innermost : Option String) : Path → Path → Prop
  | kept (path : Path) : Qualifies innermost path path
  | qualified {var name : String} {rest : List String} (hinside : innermost = some var)
    (hname : Frame.Answers var name) :
    Qualifies innermost ⟨name, rest⟩ ⟨Frame.progressName, name :: rest⟩

def Path.qualify (innermost : Option String) (path : Path) : Path :=
  match innermost with
  | some var =>
    if Frame.Answers var path.head then ⟨Frame.progressName, path.segments⟩ else path
  | none => path

theorem Path.qualifies_qualify (innermost : Option String) (path : Path) :
    path.Qualifies innermost (path.qualify innermost) := by
  cases innermost with
  | none => exact .kept path
  | some var =>
    simp only [qualify]
    split
    · next hname => exact .qualified rfl hname
    · exact .kept path

theorem Frame.progress?_of_mem_bareNames {name : String} (h : name ∈ bareNames) (frame : Frame) :
    ∃ value, frame.progress? name = some value ∧ frame.progress.get? name = some value := by
  cases hvalue : frame.progress? name with
  | none => exact ((progress?_eq_none_iff.mp hvalue).2 h).elim
  | some value =>
    cases progress?_eq_some_iff.mp hvalue with
    | all => exact absurd h (by decide)
    | bare _ hget => exact ⟨value, rfl, hget⟩

/-- A qualified path leads where it led before. -/
theorem resolve_of_qualifies (context : Context) {frames : List Frame} {path other : Path}
    (h : path.Qualifies (frames.head?.map Frame.var) other) :
    resolve context frames path = resolve context frames other := by
  cases h with
  | kept => rfl
  | @qualified var name rest hinside hname =>
    obtain ⟨frame, hframe, rfl⟩ := Option.map_eq_some_iff.mp hinside
    obtain ⟨outer, rfl⟩ := List.head?_eq_some_iff.mp hframe
    obtain ⟨hbare, hvar, hprogress⟩ := hname
    obtain ⟨value, hvalue, hentry⟩ := frame.progress?_of_mem_bareNames hbare
    have hplain : valueOf context name (frame :: outer) = some value := by
      simp [valueOf, hvar, hvalue]
    have hwhole : valueOf context Frame.progressName (frame :: outer) =
        some (.mapping frame.progress) := by
      simp [valueOf, hprogress, Frame.progress?]
    calc resolve context (frame :: outer) ⟨name, rest⟩
      _ = value.lookup rest := by rw [resolve_eq, hplain, Option.getD_some]
      _ = (Value.mapping frame.progress).lookup (name :: rest) := by
        rw [Value.lookup_cons, Value.step?, hentry, Option.getD_some]
      _ = resolve context (frame :: outer) ⟨Frame.progressName, name :: rest⟩ := by
        rw [resolve_eq, hwhole, Option.getD_some]

-- ---------------------------------------------------------------------------
-- Nodes
-- ---------------------------------------------------------------------------

namespace Node

mutual

/-- A node in a place where the innermost loop, if any, has the variable `innermost`, with any of
its paths qualified. The source of a loop and its body for nothing are outside the loop. -/
inductive Qualifies : Option String → Node → Node → Prop
  | literal {innermost : Option String} (text : String) :
    Qualifies innermost (.literal text) (.literal text)
  | output {innermost : Option String} {path path' : Path} {filters : List String} {offset : Nat}
    (hpath : path.Qualifies innermost path') :
    Qualifies innermost (.output path filters offset) (.output path' filters offset)
  | loop {innermost : Option String} {var : String} {source source' : Path}
    {body body' : List Node} {onEmpty onEmpty' : Option (List Node)}
    (hsource : source.Qualifies innermost source') (hbody : QualifiesAll (some var) body body')
    (hempty : QualifiesOptional innermost onEmpty onEmpty') :
    Qualifies innermost (.loop var source body onEmpty) (.loop var source' body' onEmpty')
  | choice {innermost : Option String} {condition condition' : Path} {negated : Bool}
    {body body' : List Node} {otherwise otherwise' : Option (List Node)}
    (hcondition : condition.Qualifies innermost condition')
    (hbody : QualifiesAll innermost body body')
    (hotherwise : QualifiesOptional innermost otherwise otherwise') :
    Qualifies innermost (.choice condition negated body otherwise)
      (.choice condition' negated body' otherwise')

inductive QualifiesAll : Option String → List Node → List Node → Prop
  | nil {innermost : Option String} : QualifiesAll innermost [] []
  | cons {innermost : Option String} {node node' : Node} {nodes nodes' : List Node}
    (hnode : Qualifies innermost node node') (hnodes : QualifiesAll innermost nodes nodes') :
    QualifiesAll innermost (node :: nodes) (node' :: nodes')

inductive QualifiesOptional : Option String → Option (List Node) → Option (List Node) → Prop
  | none {innermost : Option String} : QualifiesOptional innermost none none
  | some {innermost : Option String} {body body' : List Node}
    (hbody : QualifiesAll innermost body body') :
    QualifiesOptional innermost (some body) (some body')

end

mutual

def qualify (innermost : Option String) : Node → Node
  | .literal text => .literal text
  | .output path filters offset => .output (path.qualify innermost) filters offset
  | .loop var source body onEmpty =>
    .loop var (source.qualify innermost) (qualifyAll (some var) body)
      (qualifyOptional innermost onEmpty)
  | .choice condition negated body otherwise =>
    .choice (condition.qualify innermost) negated (qualifyAll innermost body)
      (qualifyOptional innermost otherwise)

def qualifyAll (innermost : Option String) : List Node → List Node
  | [] => []
  | node :: nodes => qualify innermost node :: qualifyAll innermost nodes

def qualifyOptional (innermost : Option String) : Option (List Node) → Option (List Node)
  | none => none
  | some body => some (qualifyAll innermost body)

end

mutual

theorem qualifies_qualify (innermost : Option String) (node : Node) :
    Qualifies innermost node (node.qualify innermost) := by
  cases node with
  | literal text => exact .literal text
  | output path filters offset => exact .output (path.qualifies_qualify innermost)
  | loop var source body onEmpty =>
    exact .loop (source.qualifies_qualify innermost) (qualifiesAll_qualifyAll (some var) body)
      (qualifiesOptional_qualifyOptional innermost onEmpty)
  | choice condition negated body otherwise =>
    exact .choice (condition.qualifies_qualify innermost) (qualifiesAll_qualifyAll innermost body)
      (qualifiesOptional_qualifyOptional innermost otherwise)

theorem qualifiesAll_qualifyAll (innermost : Option String) (nodes : List Node) :
    QualifiesAll innermost nodes (qualifyAll innermost nodes) := by
  cases nodes with
  | nil => exact .nil
  | cons node nodes =>
    exact .cons (qualifies_qualify innermost node) (qualifiesAll_qualifyAll innermost nodes)

theorem qualifiesOptional_qualifyOptional (innermost : Option String) (body : Option (List Node)) :
    QualifiesOptional innermost body (qualifyOptional innermost body) := by
  cases body with
  | none => exact .none
  | some body => exact .some (qualifiesAll_qualifyAll innermost body)

end

section
variable (context : Context) (table : FilterTable)

mutual

/-- What a node writes does not depend on which of its paths are qualified. The variable of the
innermost loop is read off the stack. -/
theorem meaning_of_qualifies (frames : List Frame) {node other : Node}
    (h : node.Qualifies (frames.head?.map Frame.var) other) :
    node.meaning context table frames = other.meaning context table frames := by
  cases h with
  | literal text => rfl
  | output hpath => rw [meaning, meaning, resolve_of_qualifies context hpath]
  | @loop _ var source source' body body' onEmpty onEmpty' hsource hbody hempty =>
    have hround : ∀ frame : Frame, frame.var = var →
        meaningOf context table body (frame :: frames) =
          meaningOf context table body' (frame :: frames) := by
      rintro frame rfl
      exact meaningOf_of_qualifies (frame :: frames) hbody
    rw [meaning, meaning, resolve_of_qualifies context hsource,
      meaningOfOptional_of_qualifies frames hempty]
    split
    · exact congrArg concat (List.map_congr_left fun _ _ => hround _ rfl)
    · rfl
  | choice hcondition hbody hotherwise =>
    rw [meaning, meaning, resolve_of_qualifies context hcondition,
      meaningOf_of_qualifies frames hbody, meaningOfOptional_of_qualifies frames hotherwise]

theorem meaningOf_of_qualifies (frames : List Frame) {nodes others : List Node}
    (h : QualifiesAll (frames.head?.map Frame.var) nodes others) :
    meaningOf context table nodes frames = meaningOf context table others frames := by
  cases h with
  | nil => rfl
  | cons hnode hnodes =>
    rw [meaningOf, meaningOf, meaning_of_qualifies frames hnode,
      meaningOf_of_qualifies frames hnodes]

theorem meaningOfOptional_of_qualifies (frames : List Frame) {body other : Option (List Node)}
    (h : QualifiesOptional (frames.head?.map Frame.var) body other) :
    meaningOfOptional context table body frames =
      meaningOfOptional context table other frames := by
  cases h with
  | none => rfl
  | some hbody => exact meaningOf_of_qualifies frames hbody

end

end

end Node

-- ---------------------------------------------------------------------------
-- Templates
-- ---------------------------------------------------------------------------

namespace Template

/-- Progress may be asked for by the bare name or by the qualified one. If any of the paths of a
template are qualified that can be, all of them included, the template writes the same or stops
with the same error. -/
theorem render_eq_of_qualifies (template : Template) (context : Context) (table : FilterTable) :
    (∀ other : Template, Node.QualifiesAll none template.nodes other.nodes →
      (other.render context table).result = (template.render context table).result) ∧
    (render ⟨Node.qualifyAll none template.nodes⟩ context table).result =
      (template.render context table).result := by
  have hsame : ∀ other : Template, Node.QualifiesAll none template.nodes other.nodes →
      (other.render context table).result = (template.render context table).result := by
    intro other h
    rw [render, render, renderNodes_result, renderNodes_result]
    exact (Node.meaningOf_of_qualifies context table [] h).symm
  exact ⟨hsame, hsame _ (Node.qualifiesAll_qualifyAll none template.nodes)⟩

theorem render_eq_of_qualifies_nested :
    let template : Template := ⟨[.output ⟨"index", []⟩ [] 0, .loop "first" ⟨"items", []⟩
      [.choice ⟨"index", []⟩ true [.output ⟨"first", []⟩ [] 20] none,
        .loop "x" ⟨"index", ["y"]⟩ [.output ⟨"first", []⟩ [] 40]
          (some [.output ⟨"index", []⟩ [] 60]),
        .loop "x" ⟨"first", []⟩ [.output ⟨"first", []⟩ [] 80, .output ⟨"last", []⟩ [] 90] none]
      none]⟩
    let other : Template := ⟨[.output ⟨"index", []⟩ [] 0, .loop "first" ⟨"items", []⟩
      [.choice ⟨"forloop", ["index"]⟩ true [.output ⟨"first", []⟩ [] 20] none,
        .loop "x" ⟨"forloop", ["index", "y"]⟩ [.output ⟨"forloop", ["first"]⟩ [] 40]
          (some [.output ⟨"forloop", ["index"]⟩ [] 60]),
        .loop "x" ⟨"first", []⟩
          [.output ⟨"forloop", ["first"]⟩ [] 80, .output ⟨"last", []⟩ [] 90] none]
      none]⟩
    let context : Context := [("index", .string "a"), ("forloop", .string "b"),
      ("items", .sequence [.sequence [.integer 1], .sequence [.integer 2, .integer 3]])]
    Node.QualifiesAll none template.nodes other.nodes ∧
      (other.render context []).result = (template.render context []).result := by
  intro template other context
  have hindex : Frame.Answers "first" "index" := by decide
  have hfirst : Frame.Answers "x" "first" := by decide
  have hother : Node.QualifiesAll none template.nodes other.nodes :=
    .cons (.output (.kept _)) (.cons (.loop (.kept _) (.cons
      (.choice (.qualified rfl hindex) (.cons (.output (.kept _)) .nil) .none)
      (.cons (.loop (.qualified rfl hindex) (.cons (.output (.qualified rfl hfirst)) .nil)
        (.some (.cons (.output (.qualified rfl hindex)) .nil)))
      (.cons (.loop (.kept _) (.cons (.output (.qualified rfl hfirst))
        (.cons (.output (.kept _)) .nil)) .none) .nil))) .none) .nil)
  exact ⟨hother, (render_eq_of_qualifies template context []).1 other hother⟩

end Template

end Stencil
