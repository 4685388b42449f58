import Stencil.Proofs.Joining
import Stencil.Proofs.Printing

/-!
# Quoting

Any text can be written as a template that renders to it. A source quotes a text when some of the
opening braces of the text are written by their name, all else is kept, and no brace that is kept
opens a tag. A text that holds no delimiter quotes itself.
-/

namespace Stencil

/-- Whether a source quotes a text: some braces of the text are written by their names, and every
character that is kept opens no tag. -/
inductive Text.Quotes : List Char → List Char → Prop
  | nil : Quotes [] []
  | named {source text : List Char} (rest : Quotes source text) :
    Quotes ("\x7b% templatetag openbrace %\x7d".toList ++ source) ('\x7b' :: text)
  | kept {c : Char} {source text : List Char} (rest : Quotes source text)
      (hopens : ¬OpensAcross [c] source) : Quotes (c :: source) (c :: text)

def Node.ofText (text : String) : List Node :=
  if text = "" then [] else [.literal text]

/-- A source is nothing but plain text to the compiler, and renders to that text whatever the
context and the filters are. -/
def Template.IsPlain (source text : String) : Prop :=
  compile source = .ok ⟨Node.ofText text⟩ ∧
    ∀ context table, (render ⟨Node.ofText text⟩ context table).result = .ok text

-- ---------------------------------------------------------------------------
-- Nodes of plain text
-- ---------------------------------------------------------------------------

namespace Node

theorem ofText_cons (c : Char) (text : List Char) :
    ofText (String.ofList (c :: text)) = [.literal (String.ofList (c :: text))] :=
  if_neg (by simp)

theorem separatedBody_ofText (text : String) : SeparatedBody (ofText text) := by
  unfold ofText
  split
  · exact ⟨List.isChain_nil, trivial⟩
  · exact ⟨List.isChain_singleton _, trivial, trivial⟩

theorem eq_ofText_of_alike {nodes : List Node} {text : String} (h : Alike nodes (ofText text)) :
    nodes = ofText text := by
  rw [Alike, relocateAll_eq_map] at h
  unfold ofText at h ⊢
  by_cases hempty : text = ""
  · rw [if_pos hempty] at h ⊢
    exact List.map_eq_nil_iff.mp h
  · rw [if_neg hempty] at h ⊢
    obtain ⟨node, rfl, hnode⟩ := List.map_eq_singleton_iff.mp h
    cases node with
    | literal content => exact congrArg (· :: []) hnode
    | _ => cases hnode

theorem meaningOf_ofText (context : Context) (table : FilterTable) (text : String)
    (frames : List Frame) : meaningOf context table (ofText text) frames = .ok text := by
  unfold ofText
  split
  · next hempty => exact congrArg Except.ok hempty.symm
  · exact meaningOf_literal context table text frames

end Node

-- ---------------------------------------------------------------------------
-- Reading what was quoted
-- ---------------------------------------------------------------------------

theorem Text.opensAcross_of_opening_prefix {delimiter : Delimiter} {c : Char} {text : List Char}
    (h : delimiter.opening.toList <+: c :: text) : OpensAcross [c] text := by
  rw [Delimiter.toList_opening] at h
  obtain ⟨rfl, hinner⟩ := List.cons_prefix_cons.mp h
  obtain ⟨rest, rfl⟩ := hinner
  refine ⟨rfl, ?_⟩
  cases delimiter with
  | output => exact .inl rfl
  | block => exact .inr rfl

namespace Mark

theorem Scans.congr {text : List Char} {a b : List Mark} (h : Scans text a)
    (hmerge : merge a = merge b) : Scans text b := by
  intro offset
  obtain ⟨tokens, hread, hmarks⟩ := h offset
  exact ⟨tokens, hread, hmarks.trans hmerge⟩

theorem merge_text_ofText (c : Char) (text : List Char) :
    merge (.text (String.ofList [c]) :: Node.marksOf (Node.ofText (String.ofList text))) =
      merge (Node.marksOf (Node.ofText (String.ofList (c :: text)))) := by
  rw [Node.ofText_cons]
  cases text with
  | nil => rfl
  | cons d text =>
    rw [Node.ofText_cons]
    refine (merge_text_text _ _ []).trans ?_
    rw [← String.ofList_append]
    rfl

theorem scans_of_quotes {source text : List Char} (h : Text.Quotes source text) :
    Scans source (Node.marksOf (Node.ofText (String.ofList text))) := by
  induction h with
  | nil => exact scans_nil
  | @named source text _ ih =>
    have hname : '\x7d' ∉ Brace.openBrace.name.toList := by decide
    have hcut := Piece.cut_ofWords_append .brace (List.forall_mem_singleton.mpr hname) source
    exact (scans_piece hcut TokenKind.ofPiece_openBrace ih).congr (merge_text_ofText '\x7b' text)
  | @kept c source text _ hopens ih =>
    refine (scans_cons (fun _ hprefix => hopens ?_) ih).congr (merge_text_ofText c text)
    exact Text.opensAcross_of_opening_prefix hprefix

end Mark

-- ---------------------------------------------------------------------------
-- What quotes a text
-- ---------------------------------------------------------------------------

namespace Text

/-- A text that holds no opening delimiter quotes itself. -/
theorem quotes_self {text : List Char}
    (h : ∀ delimiter : Delimiter, ¬delimiter.opening.toList <:+: text) : Quotes text text := by
  induction text with
  | nil => exact .nil
  | cons c text ih =>
    refine .kept (ih fun delimiter hopens => h delimiter (hopens.trans ?_)) ?_
    · exact (List.suffix_cons c text).isInfix
    · rintro ⟨hbrace, hinner⟩
      obtain rfl : c = '\x7b' := by simpa using hbrace
      rcases hinner with hinner | hinner
      · obtain ⟨rest, rfl⟩ := List.head?_eq_some_iff.mp hinner
        exact h .output ⟨[], rest, by simp [Delimiter.toList_opening, Delimiter.inner]⟩
      · obtain ⟨rest, rfl⟩ := List.head?_eq_some_iff.mp hinner
        exact h .block ⟨[], rest, by simp [Delimiter.toList_opening, Delimiter.inner]⟩

/-- Any text is quoted by naming all of its opening braces. -/
theorem quotes_spelled (text : List Char) : Quotes (text.flatMap Mark.spellChar) text := by
  induction text with
  | nil => exact .nil
  | cons c text ih =>
    rw [List.flatMap_cons, Mark.spellChar]
    split
    · next hbrace =>
      subst hbrace
      exact .named ih
    · next hc =>
      refine .kept ih fun hopens => hc ?_
      simpa using hopens.1

end Text

-- ---------------------------------------------------------------------------
-- Templates
-- ---------------------------------------------------------------------------

namespace Template

theorem isPlain_of_quotes {source text : String} (h : Text.Quotes source.toList text.toList) :
    IsPlain source text := by
  have hscans := Mark.scans_of_quotes h
  rw [String.ofList_toList] at hscans
  have hmarks : (Node.marksOf (Node.ofText text)).map (Mark.relocate fun _ => 0) =
      Node.marksOf (Node.ofText text) := by
    unfold Node.ofText
    split <;> rfl
  obtain ⟨⟨nodes⟩, hcompile, halike⟩ :=
    Node.compile_of_scans (Node.separatedBody_ofText text) (hmarks.symm ▸ hscans)
  obtain rfl : nodes = Node.ofText text := Node.eq_ofText_of_alike halike
  rw [String.ofList_toList] at hcompile
  refine ⟨hcompile, fun context table => ?_⟩
  rw [render, renderNodes_result, Node.meaningOf_ofText]

/-- A source that quotes a text is plain text to the compiler and renders to the text. A text that
holds no opening delimiter is such a source for itself, and any text has one. -/
theorem isPlain_of_quoted :
    (∀ source text : String, Text.Quotes source.toList text.toList → IsPlain source text) ∧
    (∀ text : String, (∀ delimiter : Delimiter, ¬delimiter.opening.toList <:+: text.toList) →
      IsPlain text text) ∧
    ∀ text : String, IsPlain (String.ofList (text.toList.flatMap Mark.spellChar)) text := by
  refine ⟨fun source text h => isPlain_of_quotes h, fun text h => ?_, fun text => ?_⟩
  · exact isPlain_of_quotes (Text.quotes_self h)
  · refine isPlain_of_quotes ?_
    rw [String.toList_ofList]
    exact Text.quotes_spelled text.toList

theorem isPlain_of_quoted_mixed :
    let source := "\x7b% templatetag openbrace %\x7d\x7b\x7d\x7d\x7b% templatetag openbrace %\x7d%"
    (Text.Quotes source.toList "\x7b\x7b\x7d\x7d\x7b%".toList ∧
        IsPlain source "\x7b\x7b\x7d\x7d\x7b%") ∧
      (∀ delimiter : Delimiter, ¬delimiter.opening.toList <:+: "\x7b \x7d\x7d%\x7b".toList) ∧
      IsPlain "\x7b \x7d\x7d%\x7b" "\x7b \x7d\x7d%\x7b" := by
  intro source
  have hsource : source.toList = "\x7b% templatetag openbrace %\x7d".toList ++ '\x7b' :: '\x7d' ::
      '\x7d' :: ("\x7b% templatetag openbrace %\x7d".toList ++ ['%']) := by decide
  have htext : "\x7b\x7b\x7d\x7d\x7b%".toList = ['\x7b', '\x7b', '\x7d', '\x7d', '\x7b', '%'] := by
    decide
  have hquotes : Text.Quotes source.toList "\x7b\x7b\x7d\x7d\x7b%".toList := by
    rw [hsource, htext]
    exact .named (.kept (.kept (.kept (.named (.kept .nil (by decide))) (by decide)) (by decide))
      (by decide))
  have hplain : ∀ delimiter : Delimiter,
      ¬delimiter.opening.toList <:+: "\x7b \x7d\x7d%\x7b".toList := by
    rintro (_ | _) <;> decide
  exact ⟨⟨hquotes, isPlain_of_quoted.1 _ _ hquotes⟩, hplain, isPlain_of_quoted.2.1 _ hplain⟩

end Template

end Stencil
