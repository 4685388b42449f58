import Stencil.Proofs.Reads
import Stencil.Proofs.Reading
import Stencil.Proofs.Spelling

/-!
# Missing filters

A render stops only at a filter that the table does not have. The error names the first such filter
of an output tag and the place of that tag, so it can be traced through the tree and the tokens to
the text that was compiled.
-/

namespace Stencil

def Mark.filters : Mark → List String
  | .output _ filters _ => filters
  | _ => []

/-- Whether an error is the fault of one of the marks: an output tag that stands where the error
says, and whose first missing filter is the one that it names. -/
def RenderError.Blames (table : FilterTable) (marks : List Mark) : RenderError → Prop
  | .unknownFilter name offset =>
    ∃ path before after, .output path (before ++ name :: after) offset ∈ marks ∧
      table.get? name = none ∧ ∀ other ∈ before, (table.get? other).isSome

theorem RenderError.Blames.mono {table : FilterTable} {error : RenderError} {a b : List Mark}
    (h : error.Blames table a) (hsub : a ⊆ b) : error.Blames table b := by
  obtain ⟨name, offset⟩ := error
  obtain ⟨path, before, after, hmem, hmissing, hbefore⟩ := h
  exact ⟨path, before, after, hsub hmem, hmissing, hbefore⟩

-- ---------------------------------------------------------------------------
-- Errors of nodes
-- ---------------------------------------------------------------------------

theorem change_eq_error {table : FilterTable} {offset : Nat} {text : String} {names : List String}
    {error : RenderError} (h : table.change offset text names = .error error) :
    ∃ before name after, names = before ++ name :: after ∧ error = .unknownFilter name offset ∧
      table.get? name = none ∧ ∀ other ∈ before, (table.get? other).isSome := by
  induction names generalizing text with
  | nil => cases h
  | cons name names ih =>
    rw [FilterTable.change] at h
    split at h
    · next hmissing =>
      cases h
      exact ⟨[], name, names, rfl, rfl, hmissing, List.forall_mem_nil _⟩
    · next filter hfound =>
      obtain ⟨before, missing, after, rfl, rfl, hmissing, hbefore⟩ := ih h
      refine ⟨name :: before, missing, after, rfl, rfl, hmissing, ?_⟩
      exact List.forall_mem_cons.mpr ⟨by simp [hfound], hbefore⟩

theorem mem_of_concat_eq_error {texts : List (Except RenderError String)} {error : RenderError}
    (h : concat texts = .error error) : .error error ∈ texts := by
  induction texts with
  | nil => cases h
  | cons text texts ih =>
    rcases seq_eq_error h with rfl | hback
    · exact List.mem_cons_self
    · exact List.mem_cons_of_mem _ (ih hback)

namespace Node

variable {context : Context} {table : FilterTable} {error : RenderError}

mutual

theorem blames_of_meaning {frames : List Frame} (node : Node)
    (h : node.meaning context table frames = .error error) : error.Blames table node.marks := by
  cases node with
  | literal text => cases h
  | output path filters offset =>
    obtain ⟨before, name, after, rfl, rfl, hmissing, hbefore⟩ := change_eq_error h
    exact ⟨path, before, after, by simp [marks], hmissing, hbefore⟩
  | loop var source body onEmpty =>
    have hempty : meaningOfOptional context table onEmpty frames = .error error →
        error.Blames table (loop var source body onEmpty).marks := fun he =>
      (blames_of_meaningOfOptional .empty onEmpty he).mono fun mark hm => by simp [marks, hm]
    rw [meaning] at h
    split at h
    · -- One of the rounds stops, and every round has the marks of the body.
      obtain ⟨⟨item, index⟩, -, hround⟩ := List.mem_map.mp (mem_of_concat_eq_error h)
      exact (blames_of_meaningOf body hround).mono fun mark hm => by simp [marks, hm]
    · exact hempty h
  | choice condition negated body otherwise =>
    rw [meaning] at h
    split at h
    · exact (blames_of_meaningOf body h).mono fun mark hm => by simp [marks, hm]
    · exact (blames_of_meaningOfOptional .otherwise otherwise h).mono fun mark hm => by
        simp [marks, hm]

theorem blames_of_meaningOf {frames : List Frame} (nodes : List Node)
    (h : meaningOf context table nodes frames = .error error) :
    error.Blames table (marksOf nodes) := by
  cases nodes with
  | nil => cases h
  | cons node nodes =>
    rcases seq_eq_error h with hfront | hback
    · exact (blames_of_meaning node hfront).mono (List.subset_append_left _ _)
    · exact (blames_of_meaningOf nodes hback).mono (List.subset_append_right _ _)

theorem blames_of_meaningOfOptional {frames : List Frame} (tag : Tag) (branch : Option (List Node))
    (h : meaningOfOptional context table branch frames = .error error) :
    error.Blames table (marksOfBranch tag branch) := by
  cases branch with
  | none => cases h
  | some body => exact (blames_of_meaningOf body h).mono (List.subset_cons_self _ _)

end

-- ---------------------------------------------------------------------------
-- Filters by name
-- ---------------------------------------------------------------------------

mutual

theorem filterNames_eq (node : Node) : node.filterNames = node.marks.flatMap Mark.filters := by
  cases node with
  | literal text => rfl
  | output path filters offset => simp [filterNames, marks, Mark.filters]
  | loop var source body onEmpty =>
    simp [filterNames, marks, Mark.filters, filterNamesOf_eq body,
      filterNamesOfOptional_eq .empty onEmpty]
  | choice condition negated body otherwise =>
    simp [filterNames, marks, Mark.filters, filterNamesOf_eq body,
      filterNamesOfOptional_eq .otherwise otherwise]

theorem filterNamesOf_eq (nodes : List Node) :
    filterNamesOf nodes = (marksOf nodes).flatMap Mark.filters := by
  cases nodes with
  | nil => rfl
  | cons node nodes =>
    rw [filterNamesOf, filterNames_eq node, filterNamesOf_eq nodes, marksOf, List.flatMap_append]

theorem filterNamesOfOptional_eq (tag : Tag) (branch : Option (List Node)) :
    filterNamesOfOptional branch = (marksOfBranch tag branch).flatMap Mark.filters := by
  cases branch with
  | none => rfl
  | some body => simp [filterNamesOfOptional, marksOfBranch, Mark.filters, filterNamesOf_eq body]

end

end Node

namespace Template

theorem blames_of_render {template : Template} {context : Context} {table : FilterTable}
    {error : RenderError} (h : (template.render context table).result = .error error) :
    error.Blames table (Node.marksOf template.nodes) := by
  rw [render, renderNodes_result] at h
  exact Node.blames_of_meaningOf template.nodes h

theorem mem_filterNames {template : Template} {path : Path} {filters : List String} {offset : Nat}
    (h : .output path filters offset ∈ Node.marksOf template.nodes) :
    ∀ name ∈ filters, name ∈ template.filterNames := by
  intro name hname
  rw [filterNames, mem_sortedNames, Node.filterNamesOf_eq]
  exact List.mem_flatMap.mpr ⟨_, h, hname⟩

theorem exists_token_of_mark {source : String} {template : Template}
    (h : compile source = .ok template) {path : Path} {filters : List String} {offset : Nat}
    (hm : .output path filters offset ∈ Node.marksOf template.nodes) :
    ∃ tokens, Token.scan source.toList = .ok tokens ∧ ∃ token ∈ tokens,
      token.kind = .output path filters ∧ token.span.start = offset := by
  obtain ⟨tokens, hscan, hnodes⟩ := bind_ok.mp h
  obtain ⟨nodes, hread, rfl⟩ := map_ok.mp hnodes
  have hproper : ∀ token ∈ tokens, token.mark.ProperBranch := fun token ht =>
    (Token.plain_of_scan hscan token ht).properBranch
  rw [Node.marksOf_ofTokens hproper hread] at hm
  -- Only texts are put together, so a tag among the marks was there before.
  have htag : ∀ mark ∈ Mark.merge (tokens.map Token.mark), mark.IsTag →
      mark ∈ tokens.map Token.mark :=
    Mark.forall_mem_merge (fun a b _ _ htext => (htext (a ++ b) rfl).elim) fun _ hm _ => hm
  obtain ⟨⟨kind, span⟩, ht, hmark⟩ := List.mem_map.mp (htag _ hm (by simp))
  refine ⟨tokens, hscan, ⟨kind, span⟩, ht, ?_⟩
  cases kind <;> cases hmark
  exact ⟨rfl, rfl⟩

/-- What the names of its filters decide about a compiled template. Tables that agree on them are as
good as each other. A table that has them all is enough for every render. And a render that stops
names one of them: the first missing filter of the output tag that stands where the error says. -/
theorem filterNames_decide {source : String} {template : Template}
    (h : compile source = .ok template) (context : Context) :
    (∀ s t : FilterTable,
      (∀ name ∈ template.filterNames,
        (s.get? name).map Filter.change = (t.get? name).map Filter.change) →
      (template.render context s).result = (template.render context t).result) ∧
    (∀ table : FilterTable, (∀ name ∈ template.filterNames, (table.get? name).isSome) →
      ∃ text, (template.render context table).result = .ok text) ∧
    (∀ (table : FilterTable) (error : RenderError),
      (template.render context table).result = .error error →
      ∃ name offset, error = .unknownFilter name offset ∧ name ∈ template.filterNames ∧
        table.get? name = none ∧
        (∃ front back, source.toList = front ++ '\x7b' :: '\x7b' :: back ∧
          Text.byteSize front = offset) ∧
        ∃ tokens, Token.scan source.toList = .ok tokens ∧ ∃ token ∈ tokens,
          token.span.start = offset ∧
          (∀ other ∈ tokens, other.span.start = offset → other = token) ∧
          ∃ path before after, token.kind = .output path (before ++ name :: after) ∧
            name ∉ before ∧ ∀ other ∈ before, (table.get? other).isSome) := by
  refine ⟨fun s t hagree => render_congr (fun _ _ => rfl) hagree, fun table hall => ?_,
    fun table error herror => ?_⟩
  · cases hresult : (template.render context table).result with
    | ok text => exact ⟨text, rfl⟩
    | error error =>
      obtain ⟨name, offset⟩ := error
      obtain ⟨path, before, after, hmark, hmissing, -⟩ := blames_of_render hresult
      have hfound := hall name (mem_filterNames hmark name (by simp))
      rw [hmissing] at hfound
      cases hfound
  · obtain ⟨name, offset⟩ := error
    obtain ⟨path, before, after, hmark, hmissing, hbefore⟩ := blames_of_render herror
    obtain ⟨tokens, hscan, token, ht, hkind, hstart⟩ := exists_token_of_mark h hmark
    have hfirst : name ∉ before := by
      intro hn
      have hfound := hbefore name hn
      rw [hmissing] at hfound
      cases hfound
    obtain ⟨front, back, hsource, hsize⟩ : ∃ front back,
        source.toList = front ++ Delimiter.output.opening.toList ++ back ∧
          Text.byteSize front = token.span.start := by
      obtain ⟨earlier, later, rfl⟩ := List.append_of_mem ht
      have hd : token.kind.delimiter? = some .output := by rw [hkind]; rfl
      obtain ⟨front, back, hsource, hsize, -⟩ := Token.exists_front_of_scan hscan hd
      exact ⟨front, back, hsource, hsize⟩
    rw [Delimiter.toList_opening, List.append_assoc] at hsource
    refine ⟨name, offset, rfl, mem_filterNames hmark name (by simp), hmissing,
      ⟨front, back, hsource, hsize.trans hstart⟩, tokens, hscan, token, ht, hstart, ?_, path,
      before, after, hkind, hfirst, hbefore⟩
    exact fun other ho hplace => Token.eq_of_start_eq hscan ho ht (hplace.trans hstart.symm)

theorem filterNames_decide_chain :
    let template : Template := ⟨[.literal "a", .output ⟨"x", []⟩ ["trim", "shout"] 1]⟩
    compile "a\x7b\x7b x|trim|shout \x7d\x7d" = .ok template ∧
      (template.render [] [("trim", .plain id)]).result = .error (.unknownFilter "shout" 1) ∧
      "shout" ∈ template.filterNames ∧
      ∃ text,
        (template.render [] [("trim", .plain id), ("shout", .plain id)]).result = .ok text := by
  intro template
  have hcompile : compile "a\x7b\x7b x|trim|shout \x7d\x7d" = .ok template := rfl
  have herror : (template.render [] [("trim", .plain id)]).result =
      .error (.unknownFilter "shout" 1) := rfl
  obtain ⟨-, hall, hblame⟩ := filterNames_decide hcompile []
  obtain ⟨name, offset, hname, hmem, -⟩ := hblame _ _ herror
  cases hname
  refine ⟨hcompile, herror, hmem, hall _ fun name hname => ?_⟩
  have hmem : name ∈ ["trim", "shout"] := mem_sortedNames.mp hname
  simp only [List.mem_cons, List.not_mem_nil, or_false] at hmem
  rcases hmem with rfl | rfl <;> rfl

end Template

end Stencil
