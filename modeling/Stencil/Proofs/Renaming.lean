import Stencil.Proofs.Scopes

/-!
# Renaming loop variables

A loop variable is a bound name: it may be exchanged for another one that the body does not mention.
All paths of the body that begin with it are renamed, except where a loop inside the body binds the
old name again. The source of the loop and its body for nothing are outside of what it binds. The
names under which loops say how far they are stay out of it, for these mean other things inside
other loops.
-/

namespace Stencil

def Frame.reservedNames : List String :=
  progressName :: bareNames

def replaceName (old new name : String) : String :=
  if name = old then new else name

theorem replaceName_of_ne {old name : String} (h : name ≠ old) (new : String) :
    replaceName old new name = name :=
  if_neg h

@[simp] theorem replaceName_self (old new : String) : replaceName old new old = new :=
  if_pos rfl

theorem Frame.progress?_of_not_mem_reservedNames {name : String} (h : name ∉ reservedNames)
    (frame : Frame) : frame.progress? name = none :=
  progress?_eq_none_iff.mpr (not_or.mp (List.mem_cons.not.mp h))

namespace Node

mutual

/-- A node whose paths begin with `new` where they began with `old`. The body of a loop that binds
the old name stays as it is. -/
def renamed (old new : String) : Node → Node
  | .literal text => .literal text
  | .output path filters offset => .output (path.mapHead (replaceName old new)) filters offset
  | .loop var source body onEmpty =>
    .loop var (source.mapHead (replaceName old new))
      (if var = old then body else renamedAll old new body) (renamedOptional old new onEmpty)
  | .choice condition negated body otherwise =>
    .choice (condition.mapHead (replaceName old new)) negated (renamedAll old new body)
      (renamedOptional old new otherwise)

def renamedAll (old new : String) : List Node → List Node
  | [] => []
  | node :: nodes => renamed old new node :: renamedAll old new nodes

def renamedOptional (old new : String) : Option (List Node) → Option (List Node)
  | none => none
  | some body => some (renamedAll old new body)

end

end Node

open Value (Equivalent)

-- ---------------------------------------------------------------------------
-- Scopes
-- ---------------------------------------------------------------------------

section
variable {old new : String} (hold : old ∉ Frame.reservedNames) (hnew : new ∉ Frame.reservedNames)
  {a b : Context} {frames others : List Frame} {item item' : Value}

include hold hnew

theorem progress?_replaceName (name : String) (frame : Frame) :
    frame.progress? name = frame.progress? (replaceName old new name) := by
  by_cases hname : name = old
  · subst hname
    rw [replaceName_self, frame.progress?_of_not_mem_reservedNames hold,
      frame.progress?_of_not_mem_reservedNames hnew]
  · rw [replaceName_of_ne hname]

theorem OuterAgree.push_bound (h : OuterAgree id (· ≠ new) a b frames others)
    (hitem : Equivalent item item') (index count : Nat) :
    ScopesAgree (replaceName old new) (· ≠ new) a b (⟨old, item, index, count⟩ :: frames)
      (⟨new, item', index, count⟩ :: others) := by
  refine h.push (fun name hvisible => ?_) (fun name _ => progress?_replaceName hold hnew name) hitem
    index count
  by_cases hname : old = name
  · exact .inl ⟨hname, by rw [← hname, replaceName_self]⟩
  · have hsame := replaceName_of_ne (Ne.symm hname) new
    exact .inr ⟨hname, by rw [hsame]; exact Ne.symm hvisible, hsame⟩

theorem OuterAgree.push_other (h : OuterAgree (replaceName old new) (· ≠ new) a b frames others)
    {var : String} (hvarold : var ≠ old) (hvarnew : var ≠ new) (hitem : Equivalent item item')
    (index count : Nat) :
    ScopesAgree (replaceName old new) (· ≠ new) a b (⟨var, item, index, count⟩ :: frames)
      (⟨var, item', index, count⟩ :: others) := by
  refine h.push (fun name _ => ?_) (fun name _ => progress?_replaceName hold hnew name) hitem index
    count
  by_cases hname : name = old
  · subst hname
    exact .inr ⟨hvarold, by rwa [replaceName_self], rfl⟩
  · rw [replaceName_of_ne hname]
    by_cases hvar : var = name
    · exact .inl ⟨hvar, hvar⟩
    · exact .inr ⟨hvar, hvar, rfl⟩

omit hold hnew

theorem OuterAgree.push_hidden (h : OuterAgree (replaceName old new) (· ≠ new) a b frames others)
    (hitem : Equivalent item item') (index count : Nat) :
    ScopesAgree id (· ≠ new) a b (⟨old, item, index, count⟩ :: frames)
      (⟨old, item', index, count⟩ :: others) := by
  refine h.push (fun name _ => ?_) (fun _ _ _ => rfl) hitem index count
  by_cases hname : old = name
  · exact .inl ⟨hname, hname⟩
  · exact .inr ⟨hname, hname, (replaceName_of_ne (Ne.symm hname) new).symm⟩

end

-- ---------------------------------------------------------------------------
-- Nodes
-- ---------------------------------------------------------------------------

namespace Node

section
variable {old new : String} {a b : Context} {table : FilterTable}

mutual

theorem meaning_renamed (hold : old ∉ Frame.reservedNames)
    (hnew : new ∉ Frame.reservedNames) {frames others : List Frame} (node : Node)
    (h : ScopesAgree (replaceName old new) (· ≠ new) a b frames others)
    (hnames : ∀ name ∈ node.names, name ≠ new) :
    node.meaning a table frames = (node.renamed old new).meaning b table others := by
  cases node with
  | literal text => rfl
  | output path filters offset =>
    exact meaning_output_congr (h.resolve (hnames path.head (by simp [names]))) filters offset
  | loop var source body onEmpty =>
    have hbody : ∀ name ∈ namesOf body, name ≠ new := fun name hn =>
      hnames name (by simp [names, hn])
    refine meaning_loop_congr (h.resolve (hnames source.head (by simp [names]))) ?_ ?_
    · intro item item' index count hitem
      split
      · next hvar =>
        subst hvar
        exact meaningOf_of_agree body (h.outside.push_hidden hitem index count) hbody
      · next hvar =>
        have hvarnew : var ≠ new := hnames var (by simp [names])
        exact meaningOf_renamed hold hnew body
          (h.outside.push_other hold hnew hvar hvarnew hitem index count) hbody
    · exact meaningOfOptional_renamed hold hnew onEmpty h fun name hn =>
        hnames name (by simp [names, hn])
  | choice condition negated body otherwise =>
    refine meaning_choice_congr (h.resolve (hnames condition.head (by simp [names]))) negated ?_ ?_
    · exact meaningOf_renamed hold hnew body h fun name hn => hnames name (by simp [names, hn])
    · exact meaningOfOptional_renamed hold hnew otherwise h fun name hn =>
        hnames name (by simp [names, hn])

theorem meaningOf_renamed (hold : old ∉ Frame.reservedNames)
    (hnew : new ∉ Frame.reservedNames) {frames others : List Frame} (nodes : List Node)
    (h : ScopesAgree (replaceName old new) (· ≠ new) a b frames others)
    (hnames : ∀ name ∈ namesOf nodes, name ≠ new) :
    meaningOf a table nodes frames = meaningOf b table (renamedAll old new nodes) others := by
  cases nodes with
  | nil => rfl
  | cons node nodes =>
    rw [renamedAll, meaningOf, meaningOf,
      meaning_renamed hold hnew node h fun name hn => hnames name (by simp [namesOf, hn]),
      meaningOf_renamed hold hnew nodes h fun name hn => hnames name (by simp [namesOf, hn])]

theorem meaningOfOptional_renamed (hold : old ∉ Frame.reservedNames)
    (hnew : new ∉ Frame.reservedNames) {frames others : List Frame} (body : Option (List Node))
    (h : ScopesAgree (replaceName old new) (· ≠ new) a b frames others)
    (hnames : ∀ name ∈ namesOfOptional body, name ≠ new) :
    meaningOfOptional a table body frames =
      meaningOfOptional b table (renamedOptional old new body) others := by
  cases body with
  | none => rfl
  | some body => exact meaningOf_renamed hold hnew body h hnames

end

end

end Node

namespace Render

/-- The variable of a loop may be renamed to any name that its body does not mention, in whatever
loops and context the loop stands: it writes the same or stops with the same error. -/
theorem outcome_loop_renamed {old new : String} (hold : old ∉ Frame.reservedNames)
    (hnew : new ∉ Frame.reservedNames) {body : List Node} (hfresh : new ∉ Node.namesOf body)
    (context : Context) (table : FilterTable) (source : Path) (onEmpty : Option (List Node))
    (machine : Machine) :
    outcome (node context table (.loop old source body onEmpty)) machine =
      outcome (node context table
        (.loop new source (Node.renamedAll old new body) onEmpty)) machine := by
  have houter : OuterAgree id (· ≠ new) context context machine.frames machine.frames :=
    fun _ _ => .refl _
  have hmeaning : Node.meaning context table (.loop old source body onEmpty) machine.frames =
      Node.meaning context table (.loop new source (Node.renamedAll old new body) onEmpty)
        machine.frames := by
    refine Node.meaning_loop_congr (.refl _) ?_ rfl
    intro item item' index count hitem
    exact Node.meaningOf_renamed hold hnew body (houter.push_bound hold hnew hitem index count)
      fun name hn hname => hfresh (hname ▸ hn)
  rw [outcome_node, outcome_node, hmeaning]

/-- A loop inside the body binds the old name again. Its source and its body for nothing are renamed
and its body is not. The context has an entry of the old name, and a loop outside has the new one as
its variable. -/
theorem outcome_loop_renamed_rebound :
    let body (head : String) : List Node := [.output ⟨head, ["name"]⟩ ["shout"] 0,
      .loop "x" ⟨head, ["parts"]⟩ [.output ⟨"x", []⟩ [] 30] (some [.output ⟨head, ["name"]⟩ [] 60])]
    let context : Context := [("x", .string "context"), ("all", .sequence [
      .mapping [("name", .string "a"), ("parts", .sequence [.integer 1, .integer 2])],
      .mapping [("name", .string "b")]])]
    let table : FilterTable := [("shout", .plain id)]
    let machine : Machine := ⟨[⟨"z", .string "outside", 0, 1⟩], "", []⟩
    ("x" ∉ Frame.reservedNames ∧ "z" ∉ Frame.reservedNames ∧ "z" ∉ Node.namesOf (body "x")) ∧
      outcome (node context table (.loop "x" ⟨"all", []⟩ (body "x") none)) machine =
        outcome (node context table (.loop "z" ⟨"all", []⟩ (body "z") none)) machine := by
  intro body context table machine
  have hold : "x" ∉ Frame.reservedNames := by decide
  have hnew : "z" ∉ Frame.reservedNames := by decide
  have hfresh : "z" ∉ Node.namesOf (body "x") := by
    simp [body, Node.namesOf, Node.names, Node.namesOfOptional]
  exact ⟨⟨hold, hnew, hfresh⟩,
    outcome_loop_renamed hold hnew hfresh context table ⟨"all", []⟩ none machine⟩

end Render

end Stencil
