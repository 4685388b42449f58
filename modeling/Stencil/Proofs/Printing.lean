import Stencil.Proofs.Relocation
import Stencil.Proofs.Spelling

/-!
# Printing

A tree written as a template text, mark by mark. Printing undoes compilation: a compiled tree is in
normal form, and a tree in normal form is compiled from its text, with its tags in other places.
-/

namespace Stencil

namespace Node

mutual

/-- Whether a node can be read from a text. A condition on the path `not` alone has to be
negated. -/
def Normal : Node → Prop
  | .literal text => text ≠ ""
  | .output path filters _ =>
    path.Readable ∧ ∀ name ∈ filters, Text.isIdentifier name.toList = true
  | .loop var source body onEmpty =>
    (Text.isIdentifier var.toList = true ∧ source.Readable) ∧ NormalBody body ∧
      NormalBranch onEmpty
  | .choice condition negated body otherwise =>
    (condition.Readable ∧ (negated = false → condition ≠ ⟨"not", []⟩)) ∧ NormalBody body ∧
      NormalBranch otherwise

/-- Whether a body can be read from a text. No two literals are neighbours. -/
def NormalBody : List Node → Prop
  | [] => True
  | node :: nodes =>
    (Normal node ∧ ∀ next ∈ nodes.head?, Apart node next) ∧ NormalBody nodes

def NormalBranch : Option (List Node) → Prop
  | none => True
  | some body => NormalBody body

end

def print (nodes : List Node) : String :=
  String.ofList ((marksOf nodes).flatMap Mark.spelling)

/-- Whether two trees differ at most in where their tags stand. -/
def Alike (a b : List Node) : Prop :=
  relocateAll (fun _ => 0) a = relocateAll (fun _ => 0) b

end Node

-- ---------------------------------------------------------------------------
-- Normal form
-- ---------------------------------------------------------------------------

namespace Node

mutual

/-- A node is in normal form when its marks can be spelled and no body has two literals side by
side. -/
theorem normal_iff (node : Node) :
    node.Normal ↔ node.Separated ∧ ∀ mark ∈ node.marks, mark.Plain := by
  cases node with
  | literal text => simp [Normal, Separated, marks, Mark.Plain]
  | output path filters offset => simp [Normal, Separated, marks, Mark.Plain]
  | loop var source body onEmpty =>
    have hopening : (Mark.opening (.loop var source)).Plain ↔
        Text.isIdentifier var.toList = true ∧ source.Readable := Iff.rfl
    have hclosing : (Mark.closing .endLoop).Plain := .inl rfl
    rw [Normal, normalBody_iff body, normalBranch_iff .empty (.inr rfl) onEmpty, Separated, marks,
      List.forall_mem_cons, List.forall_mem_append, List.forall_mem_append,
      List.forall_mem_singleton, hopening, SeparatedBody]
    tauto
  | choice condition negated body otherwise =>
    have hopening : (Mark.opening (.choice condition negated)).Plain ↔
        condition.Readable ∧ (negated = false → condition ≠ ⟨"not", []⟩) := Iff.rfl
    have hclosing : (Mark.closing .endChoice).Plain := .inr rfl
    rw [Normal, normalBody_iff body, normalBranch_iff .otherwise (.inl rfl) otherwise, Separated,
      marks, List.forall_mem_cons, List.forall_mem_append, List.forall_mem_append,
      List.forall_mem_singleton, hopening, SeparatedBody]
    tauto

theorem normalBody_iff (nodes : List Node) :
    NormalBody nodes ↔ SeparatedBody nodes ∧ ∀ mark ∈ marksOf nodes, mark.Plain := by
  cases nodes with
  | nil => simp [NormalBody, SeparatedBody, SeparatedAll, marksOf]
  | cons node nodes =>
    rw [NormalBody, normal_iff node, normalBody_iff nodes, SeparatedBody, SeparatedBody,
      List.isChain_cons, SeparatedAll, marksOf, List.forall_mem_append]
    tauto

theorem normalBranch_iff (tag : Tag) (ht : (Mark.branch tag).Plain) (branch : Option (List Node)) :
    NormalBranch branch ↔
      SeparatedBranch branch ∧ ∀ mark ∈ marksOfBranch tag branch, mark.Plain := by
  cases branch with
  | none => simp [NormalBranch, SeparatedBranch, marksOfBranch]
  | some body =>
    rw [NormalBranch, normalBody_iff body, SeparatedBranch, SeparatedBody, marksOfBranch,
      List.forall_mem_cons]
    tauto

end

theorem normalBody_of_compile {source : String} {template : Template}
    (h : Template.compile source = .ok template) : NormalBody template.nodes := by
  obtain ⟨tokens, hscan, hnodes⟩ := bind_ok.mp h
  obtain ⟨nodes, hread, rfl⟩ := map_ok.mp hnodes
  have hplain := Token.plain_of_scan hscan
  have hproper : ∀ token ∈ tokens, token.mark.ProperBranch := fun token ht =>
    (hplain token ht).properBranch
  refine (normalBody_iff nodes).mpr ⟨separatedBody_ofTokens hproper hread, ?_⟩
  rw [marksOf_ofTokens hproper hread]
  refine Mark.forall_mem_merge (fun a b ha _ => ?_) (List.forall_mem_map.mpr hplain)
  exact fun hempty => ha (String.append_eq_empty_iff.mp hempty).1

end Node

-- ---------------------------------------------------------------------------
-- Scanning what was spelled
-- ---------------------------------------------------------------------------

namespace Piece

theorem closeBrace_not_mem_keyword (tag : Tag) : '\x7d' ∉ tag.keyword.toList := by
  cases tag <;> decide

theorem cut_ofWords_append (tag : Tag) {arguments : List (List Char)}
    (h : ∀ word ∈ arguments, '\x7d' ∉ word) (text : List Char) :
    cut ((ofWords tag arguments).source ++ text) = ofWords tag arguments :: cut text := by
  refine cut_tag_append (proper_tag .block ?_) text
  have hwords : ∀ word ∈ tag.keyword.toList :: arguments, '\x7d' ∉ word :=
    List.forall_mem_cons.mpr ⟨closeBrace_not_mem_keyword tag, h⟩
  intro hc
  rcases List.mem_cons.mp hc with hblank | hc
  · exact absurd hblank (by decide)
  · obtain ⟨word, hword, hc⟩ := List.mem_flatMap.mp hc
    rcases List.mem_append.mp hc with hc | hblank
    · exact hwords word hword hc
    · exact absurd hblank (by decide)

theorem cut_ofOutput_append {path : Path} {filters : List String} {offset : Nat}
    (h : (Mark.output path filters offset).Plain) (text : List Char) :
    cut ((ofOutput path filters).source ++ text) = ofOutput path filters :: cut text := by
  obtain ⟨hpath, hfilters⟩ := h
  refine cut_tag_append (proper_tag .output ?_) text
  intro hc
  rcases List.mem_append.mp hc with hc | hblank
  · rcases List.mem_append.mp hc with hc | hc
    · rcases List.mem_cons.mp hc with hblank | hc
      · exact absurd hblank (by decide)
      · exact hpath.not_mem_text (by decide) (by decide) hc
    · obtain ⟨name, hname, hc⟩ := List.mem_flatMap.mp hc
      rcases List.mem_cons.mp hc with hbar | hc
      · exact absurd hbar (by decide)
      · exact Text.not_mem_of_isIdentifier (hfilters name hname) (by decide) hc
  · exact absurd hblank (by decide)

end Piece

theorem Opening.closeBrace_not_mem {block : Opening} (h : (Mark.opening block).Plain) :
    ∀ word ∈ block.arguments, '\x7d' ∉ word := by
  cases block with
  | loop var source =>
    obtain ⟨hvar, hsource⟩ := h
    have hvar' := Text.not_mem_of_isIdentifier (c := '\x7d') hvar (by decide)
    have hsource' := hsource.not_mem_text (c := '\x7d') (by decide) (by decide)
    simpa [arguments] using ⟨hvar', hsource'⟩
  | choice condition negated =>
    have hcondition := h.1.not_mem_text (c := '\x7d') (by decide) (by decide)
    cases negated <;> simpa [arguments] using hcondition

namespace Mark

/-- Wherever it begins, the text is read as tokens with the marks. Neither where the tags stand nor
how many tokens a text is read as counts. -/
def Scans (text : List Char) (marks : List Mark) : Prop :=
  ∀ offset, ∃ tokens, Token.ofPieces offset (Piece.cut text) = .ok tokens ∧
    merge (tokens.map fun token => (token.relocate fun _ => 0).mark) = merge marks

theorem scans_nil : Scans [] [] :=
  fun _ => ⟨[], rfl, rfl⟩

theorem merge_cons_congr (mark : Mark) {a b : List Mark} (h : merge a = merge b) :
    merge (mark :: a) = merge (mark :: b) := by
  have ha := merge_append_merge [mark] a
  rw [h, merge_append_merge] at ha
  exact ha.symm

theorem merge_text_text (a b : String) (marks : List Mark) :
    merge (.text a :: .text b :: marks) = merge (.text (a ++ b) :: marks) :=
  rfl

theorem scans_cons {c : Char} {text : List Char} {marks : List Mark}
    (hc : ∀ delimiter : Delimiter, ¬delimiter.opening.toList <+: c :: text)
    (h : Scans text marks) : Scans (c :: text) (.text (String.ofList [c]) :: marks) := by
  intro offset
  obtain ⟨tokens, hread, hmarks⟩ := h (offset + c.utf8Size)
  rw [Piece.cut_cons_of_not_opening hc]
  unfold Piece.consText
  split
  · next content pieces hcut =>
    rw [hcut] at hread
    obtain ⟨kind, others, hkind, hothers, rfl⟩ := Token.ofPieces_cons_ok.mp hread
    cases hkind
    have hsize : offset + (Piece.text (c :: content)).size =
        offset + c.utf8Size + (Piece.text content).size := (Nat.add_assoc ..).symm
    refine ⟨_, Token.ofPieces_cons_ok.mpr ⟨_, others, rfl, hsize ▸ hothers, rfl⟩, ?_⟩
    have hjoin : String.ofList (c :: content) = String.ofList [c] ++ String.ofList content := by
      rw [← String.ofList_append, List.singleton_append]
    rw [← merge_cons_congr _ hmarks, hjoin]
    rfl
  · have hsize : offset + (Piece.text [c]).size = offset + c.utf8Size := rfl
    refine ⟨_, Token.ofPieces_cons_ok.mpr ⟨_, tokens, rfl, hsize ▸ hread, rfl⟩, ?_⟩
    exact merge_cons_congr _ hmarks

theorem scans_piece {piece : Piece} {kind : TokenKind} {text : List Char} {marks : List Mark}
    (hcut : Piece.cut (piece.source ++ text) = piece :: Piece.cut text)
    (hread : ∀ offset, TokenKind.ofPiece offset piece = .ok kind) (h : Scans text marks) :
    Scans (piece.source ++ text) ((Token.mk kind ⟨0, 0⟩).mark :: marks) := by
  intro offset
  obtain ⟨tokens, htokens, hmarks⟩ := h (offset + piece.size)
  rw [hcut]
  refine ⟨_, Token.ofPieces_cons_ok.mpr ⟨kind, tokens, hread offset, htokens, rfl⟩, ?_⟩
  exact merge_cons_congr _ hmarks

theorem scans_char (c : Char) {text : List Char} {marks : List Mark} (h : Scans text marks) :
    Scans (spellChar c ++ text) (.text (String.ofList [c]) :: marks) := by
  unfold spellChar
  split
  · next hbrace =>
    subst hbrace
    refine scans_piece (Piece.cut_ofWords_append .brace ?_ text) TokenKind.ofPiece_openBrace h
    decide
  · next hc => exact scans_cons (Delimiter.not_opening_prefix hc text) h

theorem scans_text {content : List Char} (hne : content ≠ []) {text : List Char}
    {marks : List Mark} (h : Scans text marks) :
    Scans (content.flatMap spellChar ++ text) (.text (String.ofList content) :: marks) := by
  induction content with
  | nil => exact (hne rfl).elim
  | cons c content ih =>
    rw [List.flatMap_cons, List.append_assoc]
    cases content with
    | nil => exact scans_char c h
    | cons d content =>
      intro offset
      obtain ⟨tokens, hread, hmarks⟩ := scans_char c (ih (List.cons_ne_nil d content)) offset
      refine ⟨tokens, hread, hmarks.trans ?_⟩
      rw [merge_text_text, ← String.ofList_append, List.singleton_append]

theorem scans_mark {mark : Mark} (hp : mark.Plain) {text : List Char} {marks : List Mark}
    (h : Scans text marks) :
    Scans (mark.spelling ++ text) (mark.relocate (fun _ => 0) :: marks) := by
  cases mark with
  | text content =>
    have hne : content.toList ≠ [] := fun hnil => hp (String.toList_eq_nil_iff.mp hnil)
    have hscans := scans_text hne h
    rwa [String.ofList_toList] at hscans
  | output path filters offset =>
    exact scans_piece (Piece.cut_ofOutput_append hp text)
      (fun place => TokenKind.ofPiece_output place hp) h
  | opening block =>
    exact scans_piece (Piece.cut_ofWords_append block.tag (Opening.closeBrace_not_mem hp) text)
      (fun place => TokenKind.ofPiece_opening place hp) h
  | branch tag =>
    exact scans_piece (Piece.cut_ofWords_append tag (List.forall_mem_nil _) text)
      (fun place => TokenKind.ofPiece_branch place hp) h
  | closing tag =>
    exact scans_piece (Piece.cut_ofWords_append tag (List.forall_mem_nil _) text)
      (fun place => TokenKind.ofPiece_closing place hp) h

theorem scans_marks {marks : List Mark} (hp : ∀ mark ∈ marks, mark.Plain) :
    Scans (marks.flatMap spelling) (marks.map (relocate fun _ => 0)) := by
  induction marks with
  | nil => exact scans_nil
  | cons mark marks ih =>
    obtain ⟨hmark, hmarks⟩ := List.forall_mem_cons.mp hp
    exact scans_mark hmark (ih hmarks)

end Mark

-- ---------------------------------------------------------------------------
-- Printing and compiling
-- ---------------------------------------------------------------------------

namespace Node

theorem separatedBody_relocateAll (f : Nat → Nat) {nodes : List Node} (h : SeparatedBody nodes) :
    SeparatedBody (relocateAll f nodes) := by
  refine separatedBody_of_marks _ ?_
  rw [marksOf_relocateAll, List.isChain_map]
  refine (isChain_marksOf nodes h).imp fun a b hapart => ?_
  cases a <;> cases b <;> trivial

/-- A text that is read as the marks of a tree is compiled to that tree, with its tags in other
places. -/
theorem compile_of_scans {source : List Char} {nodes : List Node} (hseparated : SeparatedBody nodes)
    (h : Mark.Scans source ((marksOf nodes).map (Mark.relocate fun _ => 0))) :
    ∃ template, Template.compile (String.ofList source) = .ok template ∧
      Alike template.nodes nodes := by
  have hmoved := separatedBody_relocateAll (fun _ => 0) hseparated
  obtain ⟨tokens, hscan, hmerge⟩ := h 0
  have hmarks : Mark.merge ((tokens.map (Token.relocate fun _ => 0)).map Token.mark) =
      marksOf (relocateAll (fun _ => 0) nodes) := by
    rw [List.map_map]
    refine hmerge.trans ?_
    rw [← marksOf_relocateAll, Mark.merge_of_isChain (isChain_marksOf _ hmoved)]
  have hread := ofTokens_of_marks hmoved hmarks
  rw [ofTokens_relocate] at hread
  obtain ⟨found, hfound, halike⟩ := map_ok.mp (mapError_ok.mp hread)
  refine ⟨⟨found⟩, ?_, halike⟩
  have hsource : Token.scan (String.ofList source).toList = .ok tokens := by
    rw [String.toList_ofList]
    exact hscan
  rw [Template.compile, hsource, Except.bind, hfound]
  rfl

theorem compile_print_of_normal {nodes : List Node} (h : NormalBody nodes) :
    ∃ template, Template.compile (print nodes) = .ok template ∧ Alike template.nodes nodes := by
  obtain ⟨hseparated, hplain⟩ := (normalBody_iff nodes).mp h
  exact compile_of_scans hseparated (Mark.scans_marks hplain)

end Node

def RenderError.name : RenderError → String
  | .unknownFilter name _ => name

/-- Trees that differ only in where their tags stand write the same text, or stop at the same
filter. -/
theorem Template.render_of_alike {a b : Template} (h : Node.Alike a.nodes b.nodes)
    (context : Context) (table : FilterTable) :
    (a.render context table).result.mapError RenderError.name =
      (b.render context table).result.mapError RenderError.name := by
  have hname : ∀ result : Except RenderError String, result.mapError RenderError.name =
      (result.mapError (RenderError.relocate fun _ => 0)).mapError RenderError.name := by
    rintro (⟨name, offset⟩ | text) <;> rfl
  rw [hname, hname (b.render context table).result, render, render, renderNodes_result,
    renderNodes_result, ← Node.meaningOf_relocate, ← Node.meaningOf_relocate, h]

/-- Printing undoes compilation. A compiled tree is in normal form. The text of any tree in normal
form is compiled to that tree, with its tags in other places. So a template that is printed and
compiled again renders as before. -/
theorem Template.compile_print :
    (∀ source template, compile source = .ok template → Node.NormalBody template.nodes) ∧
    (∀ nodes, Node.NormalBody nodes →
      ∃ template, compile (Node.print nodes) = .ok template ∧ Node.Alike template.nodes nodes) ∧
    (∀ source template, compile source = .ok template →
      ∃ again, compile (Node.print template.nodes) = .ok again ∧
        ∀ context table,
          (again.render context table).result.mapError RenderError.name =
            (template.render context table).result.mapError RenderError.name) := by
  refine ⟨fun source template h => Node.normalBody_of_compile h,
    fun nodes h => Node.compile_print_of_normal h, fun source template h => ?_⟩
  obtain ⟨again, hagain, halike⟩ :=
    Node.compile_print_of_normal (Node.normalBody_of_compile h)
  exact ⟨again, hagain, render_of_alike halike⟩

theorem Template.compile_print_keywords :
    Node.NormalBody [.choice ⟨"not", []⟩ true [.literal "\x7b"] none] ∧
    (∃ again,
      compile (Node.print [.choice ⟨"not", []⟩ true [.literal "\x7b"] none]) = .ok again ∧
        ∀ context table,
          (again.render context table).result.mapError RenderError.name =
            (render ⟨[.choice ⟨"not", []⟩ true [.literal "\x7b"] none]⟩ context
              table).result.mapError RenderError.name) ∧
    ∃ template,
      compile (Node.print [.loop "in" ⟨"for", ["not"]⟩ [.output ⟨"in", []⟩ ["if"] 7] none]) =
        .ok template ∧
      Node.Alike template.nodes
        [.loop "in" ⟨"for", ["not"]⟩ [.output ⟨"in", []⟩ ["if"] 7] none] := by
  have hcompile : compile
      "\x7b% if not not %\x7d\x7b% templatetag openbrace %\x7d\x7b% endif %\x7d" =
        .ok ⟨[.choice ⟨"not", []⟩ true [.literal "\x7b"] none]⟩ := rfl
  have houtput : Node.Normal (.output ⟨"in", []⟩ ["if"] 7) := ⟨⟨"in".toList, rfl⟩, by decide⟩
  have hloop : Node.Normal (.loop "in" ⟨"for", ["not"]⟩ [.output ⟨"in", []⟩ ["if"] 7] none) :=
    ⟨⟨by decide, "for.not".toList, rfl⟩, ⟨⟨houtput, nofun⟩, trivial⟩, trivial⟩
  exact ⟨compile_print.1 _ _ hcompile, compile_print.2.2 _ _ hcompile,
    compile_print.2.1 _ ⟨⟨hloop, nofun⟩, trivial⟩⟩

example : Node.print
    [.literal "a\x7b", .choice ⟨"x", []⟩ true [.output ⟨"x", ["y"]⟩ ["upper"] 0] none] =
      "a\x7b% templatetag openbrace %\x7d" ++
        "\x7b% if not x %\x7d\x7b\x7b x.y|upper \x7d\x7d\x7b% endif %\x7d" :=
  rfl

end Stencil
