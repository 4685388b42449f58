import Stencil.Proofs.Meaning

/-!
# What a template reads

The two analyses of a template say enough. What nodes write depends on the context only through the
values of their placeholders, and on the table only through what its filters make of a text under
the names that occur. The names that a loop answers for are read off the loops that are around a
node, so the variables of the frames are the names that the analysis counts as bound.
-/

namespace Stencil

def Context.AgreeOn (a b : Context) (names : List String) : Prop :=
  ∀ name ∈ names, a.get? name = b.get? name

/-- Under each of the names both tables have no filter, or both have one that makes the same of
every text. -/
def FilterTable.AgreeOn (a b : FilterTable) (names : List String) : Prop :=
  ∀ name ∈ names, (a.get? name).map Filter.change = (b.get? name).map Filter.change

theorem mem_sortedNames {name : String} {names : List String} :
    name ∈ sortedNames names ↔ name ∈ names := by
  simp [sortedNames, List.mem_eraseDups, List.mem_mergeSort]

-- ---------------------------------------------------------------------------
-- Names and paths
-- ---------------------------------------------------------------------------

section
variable {a b : Context}

theorem StandsFor.congr {name : String} {frames : List Frame} {value : Value}
    (h : (∀ frame ∈ frames, frame.var ≠ name) →
      (∀ inner ∈ frames.head?, ∀ value, ¬inner.Tells name value) → a.get? name = b.get? name)
    (hstands : StandsFor a name frames value) : StandsFor b name frames value := by
  cases hstands with
  | innermost hvar => exact .innermost hvar
  | progress hvar htells => exact .progress hvar htells
  | outer hnearer htells hvar => exact .outer hnearer htells hvar
  | entry hvars htells hentry => exact .entry hvars htells (h hvars htells ▸ hentry)

/-- The head of a path is a placeholder if no loop says what it stands for. -/
theorem Node.placeholder?_eq_head {frames : List Frame} {path : Path}
    (hvars : ∀ frame ∈ frames, frame.var ≠ path.head)
    (htells : ∀ inner ∈ frames.head?, ∀ value, ¬inner.Tells path.head value) :
    Node.placeholder? (frames.map Frame.var) path = some path.head := by
  have hfree : path.head ∉ frames.map Frame.var := by simpa using hvars
  cases frames with
  | nil => simp [Node.placeholder?]
  | cons inner frames =>
    obtain ⟨hname, hbare⟩ := Frame.progress?_eq_none_iff.mp
      (Frame.forall_not_tells_iff.mp (htells inner rfl))
    simp [Node.placeholder?, hname, hbare, List.map_cons ▸ hfree]

theorem resolve_congr {frames : List Frame} {path : Path}
    (h : a.AgreeOn b (Node.placeholder? (frames.map Frame.var) path).toList) :
    resolve a frames path = resolve b frames path := by
  have hhead : (∀ frame ∈ frames, frame.var ≠ path.head) →
      (∀ inner ∈ frames.head?, ∀ value, ¬inner.Tells path.head value) →
      a.get? path.head = b.get? path.head := fun hvars htells =>
    h path.head (by simp [Node.placeholder?_eq_head hvars htells])
  have hvalue : valueOf a path.head frames = valueOf b path.head frames := by
    ext value
    simp only [valueOf_eq_some_iff]
    exact ⟨.congr hhead, .congr fun hvars htells => (hhead hvars htells).symm⟩
  unfold resolve
  rw [hvalue]

-- ---------------------------------------------------------------------------
-- Nodes
-- ---------------------------------------------------------------------------

variable {s t : FilterTable}

theorem change_congr {offset : Nat} {text : String} {names : List String}
    (h : s.AgreeOn t names) : s.change offset text names = t.change offset text names := by
  induction names generalizing text with
  | nil => rfl
  | cons name names ih =>
    have hname := h name (by simp)
    have hrest : s.AgreeOn t names := fun other ho => h other (List.mem_cons_of_mem _ ho)
    simp only [FilterTable.change]
    cases hs : s.get? name <;> cases ht : t.get? name <;> simp [hs, ht] at hname
    · rfl
    · simp only [hname]
      exact ih hrest

end

namespace Node

variable {a b : Context} {s t : FilterTable}

mutual

theorem meaning_congr {frames : List Frame} (node : Node)
    (hc : a.AgreeOn b (node.placeholders (frames.map Frame.var)))
    (ht : s.AgreeOn t node.filterNames) :
    node.meaning a s frames = node.meaning b t frames := by
  cases node with
  | literal text => rfl
  | output path filters offset =>
    have hfilters : s.AgreeOn t filters := ht
    rw [meaning, meaning, resolve_congr hc, change_congr hfilters]
  | loop var source body onEmpty =>
    simp only [placeholders, Context.AgreeOn, List.mem_append] at hc
    simp only [filterNames, FilterTable.AgreeOn, List.mem_append] at ht
    have hbody : ∀ frame : Frame, frame.var = var →
        meaningOf a s body (frame :: frames) = meaningOf b t body (frame :: frames) := by
      rintro frame rfl
      exact meaningOf_congr body (fun name hn => hc name (.inl (.inr hn)))
        fun name hn => ht name (.inl hn)
    have hempty : meaningOfOptional a s onEmpty frames = meaningOfOptional b t onEmpty frames :=
      meaningOfOptional_congr onEmpty (fun name hn => hc name (.inr hn))
        fun name hn => ht name (.inr hn)
    rw [meaning, meaning, resolve_congr fun name hn => hc name (.inl (.inl hn)), hempty]
    cases resolve b frames source with
    | sequence items =>
      cases items with
      | nil => rfl
      | cons first others =>
        exact congrArg concat (List.map_congr_left fun _ _ => hbody _ rfl)
    | _ => rfl
  | choice condition negated body otherwise =>
    simp only [placeholders, Context.AgreeOn, List.mem_append] at hc
    simp only [filterNames, FilterTable.AgreeOn, List.mem_append] at ht
    rw [meaning, meaning, resolve_congr fun name hn => hc name (.inl (.inl hn)),
      meaningOf_congr body (fun name hn => hc name (.inl (.inr hn))) fun name hn =>
        ht name (.inl hn),
      meaningOfOptional_congr otherwise (fun name hn => hc name (.inr hn)) fun name hn =>
        ht name (.inr hn)]

theorem meaningOf_congr {frames : List Frame} (nodes : List Node)
    (hc : a.AgreeOn b (placeholdersOf (frames.map Frame.var) nodes))
    (ht : s.AgreeOn t (filterNamesOf nodes)) :
    meaningOf a s nodes frames = meaningOf b t nodes frames := by
  cases nodes with
  | nil => rfl
  | cons node nodes =>
    simp only [placeholdersOf, Context.AgreeOn, List.mem_append] at hc
    simp only [filterNamesOf, FilterTable.AgreeOn, List.mem_append] at ht
    rw [meaningOf, meaningOf,
      meaning_congr node (fun name hn => hc name (.inl hn)) fun name hn => ht name (.inl hn),
      meaningOf_congr nodes (fun name hn => hc name (.inr hn)) fun name hn => ht name (.inr hn)]

theorem meaningOfOptional_congr {frames : List Frame} (body : Option (List Node))
    (hc : a.AgreeOn b (placeholdersOfOptional (frames.map Frame.var) body))
    (ht : s.AgreeOn t (filterNamesOfOptional body)) :
    meaningOfOptional a s body frames = meaningOfOptional b t body frames := by
  cases body with
  | none => rfl
  | some body => exact meaningOf_congr body hc ht

end

end Node

-- ---------------------------------------------------------------------------
-- Templates
-- ---------------------------------------------------------------------------

namespace Template

/-- A template writes the same in contexts that agree on its placeholders, with tables that agree on
the names of its filters. -/
theorem render_congr {template : Template} {a b : Context} {s t : FilterTable}
    (hc : a.AgreeOn b template.placeholders) (ht : s.AgreeOn t template.filterNames) :
    (template.render a s).result = (template.render b t).result := by
  simp only [render, renderNodes_result]
  exact Node.meaningOf_congr template.nodes (fun name hn => hc name (mem_sortedNames.mpr hn))
    fun name hn => ht name (mem_sortedNames.mpr hn)

/-- A template reads from its context nothing but its placeholders. So an entry under any other name
may be added, taken away or changed, and nothing that is written shows it. -/
theorem render_eq_of_placeholders (template : Template) (table : FilterTable) (a b : Context) :
    ((∀ name ∈ template.placeholders, a.get? name = b.get? name) →
      (template.render a table).result = (template.render b table).result) ∧
    (∀ name, name ∉ template.placeholders → (∀ other, other ≠ name → a.get? other = b.get? other) →
      (template.render a table).result = (template.render b table).result) := by
  refine ⟨fun h => render_congr h fun _ _ => rfl, fun name hname h => ?_⟩
  refine render_congr (fun other ho => h other ?_) fun _ _ => rfl
  rintro rfl
  exact hname ho

theorem render_eq_of_placeholders_loop :
    let template : Template :=
      ⟨[.loop "p" ⟨"items", []⟩ [.output ⟨"p", []⟩ [] 21, .output ⟨"last", []⟩ [] 28] none]⟩
    let context : Context := [("items", .sequence [.string "a", .string "b"])]
    (template.render context []).result =
        (template.render (("p", .string "c") :: ("last", .absent) :: context) []).result ∧
      (template.render context []).result =
        (template.render (("last", .absent) :: context) []).result := by
  intro template context
  have honly : ∀ name ∈ template.placeholders, name = "items" := by
    intro name hname
    have hmem : name ∈ ["items"] := mem_sortedNames.mp hname
    simpa using hmem
  refine ⟨(render_eq_of_placeholders template [] _ _).1 fun name hname => ?_,
    (render_eq_of_placeholders template [] _ _).2 "last" (fun hlast => ?_) fun other ho => ?_⟩
  · rw [honly name hname]
    rfl
  · exact absurd (honly "last" hlast) (by decide)
  · exact ((Entries.get?_cons "last" .absent context other).trans (if_neg ho)).symm

end Template

end Stencil
