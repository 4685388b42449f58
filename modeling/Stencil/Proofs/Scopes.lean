import Stencil.Proofs.Equivalence
import Stencil.Proofs.Meaning

/-!
# Scopes

What a node sees of the context and of the loops around it. All that it reads are the values of
names. So two scopes that answer equivalent values to every name are as good as each other, and they
stay so inside a loop over equivalent sequences. The main statement is that contexts which are
equivalent as mappings cannot be told apart by any template.
-/

namespace Stencil

-- ---------------------------------------------------------------------------
-- Outcomes of a step
-- ---------------------------------------------------------------------------

namespace Render

def outcome (step : Render Unit) (machine : Machine) : Except RenderError String :=
  match step machine with
  | .ok () after => .ok after.written
  | .error error _ => .error error

theorem Writes.outcome_eq {text : Except RenderError String} {step : Render Unit}
    {machine : Machine} (h : Writes (· = machine.frames) text step) :
    outcome step machine = text.map (machine.written ++ ·) := by
  have hstep := h machine rfl
  unfold outcome
  cases hrun : step machine with
  | ok _ after =>
    rw [hrun] at hstep
    obtain ⟨-, new, rfl, hwritten⟩ := hstep
    simp [hwritten, Except.map]
  | error error after =>
    rw [hrun] at hstep
    obtain ⟨-, rfl⟩ := hstep
    rfl

theorem outcome_node (context : Context) (table : FilterTable) (node : Node) (machine : Machine) :
    outcome (Render.node context table node) machine =
      (node.meaning context table machine.frames).map (machine.written ++ ·) :=
  (writes_node context table machine.frames node).outcome_eq

theorem outcome_nodes (context : Context) (table : FilterTable) (body : List Node)
    (machine : Machine) :
    outcome (Render.nodes context table body) machine =
      (Node.meaningOf context table body machine.frames).map (machine.written ++ ·) :=
  (writes_nodes context table machine.frames body).outcome_eq

end Render

-- ---------------------------------------------------------------------------
-- Names
-- ---------------------------------------------------------------------------

def Path.mapHead (rename : String → String) (path : Path) : Path :=
  { path with head := rename path.head }

theorem resolve_eq (context : Context) (frames : List Frame) (path : Path) :
    resolve context frames path =
      ((valueOf context path.head frames).getD .absent).lookup path.rest := by
  unfold resolve
  cases valueOf context path.head frames with
  | none => exact (Value.lookup_absent path.rest).symm
  | some value => rfl

open Value (Equivalent)

/-- Two scopes, of which the second answers under its new name what the first answers under a name
if no loop is asked for its progress. Only visible names count. -/
def OuterAgree (rename : String → String) (visible : String → Prop) (a b : Context)
    (frames others : List Frame) : Prop :=
  ∀ name, visible name →
    Equivalent ((valueOutside a name frames).getD .absent)
      ((valueOutside b (rename name) others).getD .absent)

/-- Two scopes that answer alike, whether the innermost loop is asked for its progress or not. -/
structure ScopesAgree (rename : String → String) (visible : String → Prop) (a b : Context)
    (frames others : List Frame) : Prop where
  inside : ∀ name, visible name →
    Equivalent ((valueOf a name frames).getD .absent)
      ((valueOf b (rename name) others).getD .absent)
  outside : OuterAgree rename visible a b frames others

section
variable {rename : String → String} {visible : String → Prop} {a b : Context}
  {frames others : List Frame}

theorem ScopesAgree.resolve (h : ScopesAgree rename visible a b frames others) {path : Path}
    (hpath : visible path.head) :
    Equivalent (resolve a frames path) (resolve b others (path.mapHead rename)) := by
  rw [resolve_eq, resolve_eq]
  exact (h.inside path.head hpath).lookup path.rest

/-- Inside one more loop the scopes agree if its variable in the one is its variable in the other
under the new names, and all other names are renamed as they were. Of the loops outside it nothing
else has to agree, for none of them is asked for its progress any more. -/
theorem OuterAgree.push (h : OuterAgree rename visible a b frames others)
    {rename' : String → String} {var var' : String}
    (hvar : ∀ name, visible name →
      var = name ∧ var' = rename' name ∨
        var ≠ name ∧ var' ≠ rename' name ∧ rename' name = rename name)
    (hprogress : ∀ name, visible name → ∀ frame : Frame,
      frame.progress? name = frame.progress? (rename' name))
    {item item' : Value} (hitem : Equivalent item item') (index count : Nat) :
    ScopesAgree rename' visible a b (⟨var, item, index, count⟩ :: frames)
      (⟨var', item', index, count⟩ :: others) := by
  constructor
  · intro name hname
    rcases hvar name hname with ⟨rfl, rfl⟩ | ⟨hne, hne', hrename⟩
    · simpa [valueOf] using hitem
    · -- The progress of a loop does not depend on its variable or its element.
      have hsame : Frame.progress? ⟨var', item', index, count⟩ (rename' name) =
          Frame.progress? ⟨var, item, index, count⟩ name :=
        (hprogress name hname ⟨var, item, index, count⟩).symm
      simp only [valueOf, if_neg hne, if_neg hne', hsame]
      cases Frame.progress? ⟨var, item, index, count⟩ name with
      | some value => exact .refl _
      | none => exact hrename ▸ h name hname
  · intro name hname
    rcases hvar name hname with ⟨rfl, rfl⟩ | ⟨hne, hne', hrename⟩
    · simpa [valueOutside] using hitem
    · simp only [valueOutside, if_neg hne, if_neg hne']
      exact hrename ▸ h name hname

theorem OuterAgree.push_id (h : OuterAgree id visible a b frames others) (var : String)
    {item item' : Value} (hitem : Equivalent item item') (index count : Nat) :
    ScopesAgree id visible a b (⟨var, item, index, count⟩ :: frames)
      (⟨var, item', index, count⟩ :: others) := by
  refine h.push (fun name _ => ?_) (fun _ _ _ => rfl) hitem index count
  by_cases hname : var = name
  · exact .inl ⟨hname, hname⟩
  · exact .inr ⟨hname, hname, rfl⟩

end

-- ---------------------------------------------------------------------------
-- Nodes
-- ---------------------------------------------------------------------------

namespace Node

mutual

/-- The names that a node mentions: the heads of its paths, and its loop variables. -/
def names : Node → List String
  | .literal _ => []
  | .output path _ _ => [path.head]
  | .loop var source body onEmpty =>
    var :: source.head :: (namesOf body ++ namesOfOptional onEmpty)
  | .choice condition _ body otherwise =>
    condition.head :: (namesOf body ++ namesOfOptional otherwise)

def namesOf : List Node → List String
  | [] => []
  | node :: nodes => names node ++ namesOf nodes

def namesOfOptional : Option (List Node) → List String
  | none => []
  | some body => namesOf body

end

section
variable {a b : Context} {table : FilterTable} {frames others : List Frame} {path path' : Path}

theorem meaning_output_congr (h : Equivalent (resolve a frames path) (resolve b others path'))
    (filters : List String) (offset : Nat) :
    meaning a table (.output path filters offset) frames =
      meaning b table (.output path' filters offset) others := by
  rw [meaning, meaning, h.output_eq]

theorem meaning_choice_congr (h : Equivalent (resolve a frames path) (resolve b others path'))
    (negated : Bool) {body body' : List Node} {otherwise otherwise' : Option (List Node)}
    (hbody : meaningOf a table body frames = meaningOf b table body' others)
    (hotherwise : meaningOfOptional a table otherwise frames =
      meaningOfOptional b table otherwise' others) :
    meaning a table (.choice path negated body otherwise) frames =
      meaning b table (.choice path' negated body' otherwise') others := by
  rw [meaning, meaning, h.isTruthy_eq, hbody, hotherwise]

theorem map_zipIdx_congr {α β γ : Type} {related : α → β → Prop} {f : α × Nat → γ} {g : β × Nat → γ}
    (h : ∀ a b index, related a b → f (a, index) = g (b, index)) {as : List α} {bs : List β}
    (hitems : List.Forall₂ related as bs) (index : Nat) :
    (as.zipIdx index).map f = (bs.zipIdx index).map g := by
  induction hitems generalizing index with
  | nil => rfl
  | cons hitem _ ih =>
    rw [List.zipIdx_cons, List.zipIdx_cons, List.map_cons, List.map_cons, h _ _ index hitem,
      ih (index + 1)]

/-- Loops over equivalent sequences write the same if their bodies do in rounds of the same number
over equivalent elements. -/
theorem meaning_loop_congr (h : Equivalent (resolve a frames path) (resolve b others path'))
    {var var' : String} {body body' : List Node} {onEmpty onEmpty' : Option (List Node)}
    (hbody : ∀ (item item' : Value) (index count : Nat), Equivalent item item' →
      meaningOf a table body (⟨var, item, index, count⟩ :: frames) =
        meaningOf b table body' (⟨var', item', index, count⟩ :: others))
    (hempty : meaningOfOptional a table onEmpty frames =
      meaningOfOptional b table onEmpty' others) :
    meaning a table (.loop var path body onEmpty) frames =
      meaning b table (.loop var' path' body' onEmpty') others := by
  rw [meaning, meaning]
  generalize resolve a frames path = value at h
  generalize resolve b others path' = value' at h
  cases h with
  | sequence hitems =>
    cases hitems with
    | nil => exact hempty
    | cons hfirst hothers =>
      have hitems := List.Forall₂.cons hfirst hothers
      simp only [← hitems.length_eq]
      refine congrArg concat (map_zipIdx_congr (fun item item' index hitem => ?_) hitems 0)
      exact hbody item item' index _ hitem
  | _ => exact hempty

end

section
variable {visible : String → Prop} {a b : Context} {table : FilterTable}

mutual

theorem meaning_of_agree {frames others : List Frame} (node : Node)
    (h : ScopesAgree id visible a b frames others) (hnames : ∀ name ∈ node.names, visible name) :
    node.meaning a table frames = node.meaning b table others := by
  cases node with
  | literal text => rfl
  | output path filters offset =>
    exact meaning_output_congr (h.resolve (hnames path.head (by simp [names]))) filters offset
  | loop var source body onEmpty =>
    refine meaning_loop_congr (h.resolve (hnames source.head (by simp [names]))) ?_ ?_
    · intro item item' index count hitem
      exact meaningOf_of_agree body (h.outside.push_id var hitem index count) fun name hn =>
        hnames name (by simp [names, hn])
    · exact meaningOfOptional_of_agree onEmpty h fun name hn => hnames name (by simp [names, hn])
  | choice condition negated body otherwise =>
    refine meaning_choice_congr (h.resolve (hnames condition.head (by simp [names]))) negated ?_ ?_
    · exact meaningOf_of_agree body h fun name hn => hnames name (by simp [names, hn])
    · exact meaningOfOptional_of_agree otherwise h fun name hn => hnames name (by simp [names, hn])

theorem meaningOf_of_agree {frames others : List Frame} (nodes : List Node)
    (h : ScopesAgree id visible a b frames others)
    (hnames : ∀ name ∈ namesOf nodes, visible name) :
    meaningOf a table nodes frames = meaningOf b table nodes others := by
  cases nodes with
  | nil => rfl
  | cons node nodes =>
    rw [meaningOf, meaningOf,
      meaning_of_agree node h fun name hn => hnames name (by simp [namesOf, hn]),
      meaningOf_of_agree nodes h fun name hn => hnames name (by simp [namesOf, hn])]

theorem meaningOfOptional_of_agree {frames others : List Frame} (body : Option (List Node))
    (h : ScopesAgree id visible a b frames others)
    (hnames : ∀ name ∈ namesOfOptional body, visible name) :
    meaningOfOptional a table body frames = meaningOfOptional b table body others := by
  cases body with
  | none => rfl
  | some body => exact meaningOf_of_agree body h hnames

end

end

end Node

-- ---------------------------------------------------------------------------
-- Contexts
-- ---------------------------------------------------------------------------

namespace Template

/-- A template cannot tell equivalent contexts apart: neither the order of entries nor an absent
entry, at any depth, shows in what it writes or in the error that stops it. -/
theorem render_eq_of_equivalent (template : Template) (table : FilterTable) {a b : Context}
    (h : Equivalent (.mapping a) (.mapping b)) :
    (template.render a table).result = (template.render b table).result := by
  cases h with
  | mapping hentries =>
    have hagree : ScopesAgree id (fun _ => True) a b [] [] :=
      ⟨fun name _ => hentries name, fun name _ => hentries name⟩
    rw [render, render, renderNodes_result, renderNodes_result]
    exact Node.meaningOf_of_agree template.nodes hagree fun _ _ => trivial

theorem render_eq_of_equivalent_reordered :
    let template : Template :=
      ⟨[.loop "p" ⟨"people", []⟩ [.choice ⟨"p", ["note"]⟩ true [.output ⟨"p", ["name"]⟩ [] 40] none]
        none, .output ⟨"people", ["0", "name"]⟩ ["shout"] 80]⟩
    let person : Entries Value := [("name", .string "Ann")]
    let a : Context :=
      [("people", .sequence [.mapping (("note", .absent) :: person), .absent]), ("n", .integer 1)]
    let b : Context := [("n", .integer 1), ("people", .sequence [.mapping person, .absent])]
    Equivalent (.mapping a) (.mapping b) ∧
      (template.render a []).result = (template.render b []).result := by
  intro template person a b
  have hpeople : Equivalent (.sequence [.mapping (("note", .absent) :: person), .absent])
      (.sequence [.mapping person, .absent]) :=
    .sequence (.cons (Value.equivalent_cons_absent rfl) (.cons .absent .nil))
  have hshorter : Equivalent (.mapping a)
      (.mapping [("people", .sequence [.mapping person, .absent]), ("n", .integer 1)]) :=
    Value.equivalent_cons hpeople (.refl _) "people"
  have h : Equivalent (.mapping a) (.mapping b) :=
    hshorter.trans (Value.equivalent_of_perm (List.Perm.swap _ _ _) (by decide))
  exact ⟨h, render_eq_of_equivalent template [] h⟩

end Template

end Stencil
