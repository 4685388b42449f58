import Stencil.Proofs.Marks
import Stencil.Proofs.Scanning
import Stencil.Proofs.Spacing

/-!
# Spelling

How the marks of a template are spelled, with one blank where blanks are needed. Reading a spelled
tag gives what was spelled, and nothing can be read that could not have been spelled: a mark that
comes from a text is plain.
-/

namespace Stencil

/-- A mark that can be spelled. A condition on the path `not` alone would read as a negation that
lacks its path, so it can be spelled only with a `not` before it. -/
def Mark.Plain : Mark → Prop
  | .text content => content ≠ ""
  | .output path filters _ =>
    path.Readable ∧ ∀ name ∈ filters, Text.isIdentifier name.toList = true
  | .opening (.loop var source) => Text.isIdentifier var.toList = true ∧ source.Readable
  | .opening (.choice condition negated) =>
    condition.Readable ∧ (negated = false → condition ≠ ⟨"not", []⟩)
  | .branch tag => tag = .otherwise ∨ tag = .empty
  | .closing tag => tag = .endLoop ∨ tag = .endChoice

def Opening.arguments : Opening → List (List Char)
  | .loop var source => [var.toList, "in".toList, source.text]
  | .choice condition false => [condition.text]
  | .choice condition true => ["not".toList, condition.text]

namespace Piece

def ofWords (tag : Tag) (arguments : List (List Char)) : Piece :=
  .tag .block (' ' :: (tag.keyword.toList :: arguments).flatMap (· ++ [' ']))

def ofOutput (path : Path) (filters : List String) : Piece :=
  .tag .output (' ' :: path.text ++ filters.flatMap (fun name => '|' :: name.toList) ++ [' '])

def openBrace : Piece :=
  ofWords .brace [Brace.openBrace.name.toList]

end Piece

namespace Mark

/-- The text of a character. An opening brace is written by its name, so that it opens no tag. -/
def spellChar (c : Char) : List Char :=
  if c = '\x7b' then Piece.openBrace.source else [c]

def spelling : Mark → List Char
  | .text content => content.toList.flatMap spellChar
  | .output path filters _ => (Piece.ofOutput path filters).source
  | .opening block => (Piece.ofWords block.tag block.arguments).source
  | .branch tag => (Piece.ofWords tag []).source
  | .closing tag => (Piece.ofWords tag []).source

theorem Plain.properBranch {mark : Mark} (h : mark.Plain) : mark.ProperBranch := by
  cases mark with
  | branch tag => exact h
  | _ => trivial

end Mark

-- ---------------------------------------------------------------------------
-- Block tags
-- ---------------------------------------------------------------------------

theorem Text.words_spelled {words : List (List Char)} (h : ∀ word ∈ words, IsWord word) :
    Text.words (' ' :: words.flatMap (· ++ [' '])) = words := by
  rw [words_blank _ (by decide)]
  induction words with
  | nil => exact words_nil
  | cons word words ih =>
    obtain ⟨hword, hrest⟩ := List.forall_mem_cons.mp h
    rw [List.flatMap_cons, List.append_assoc, List.singleton_append,
      words_append_blank _ hword (by decide), ih hrest]

theorem Path.readable_not : (⟨"not", []⟩ : Path).Readable :=
  ⟨"not".toList, by decide⟩

theorem Opening.isWord_of_mem_arguments {block : Opening} (h : (Mark.opening block).Plain) :
    ∀ word ∈ block.arguments, Text.IsWord word := by
  cases block with
  | loop var source =>
    obtain ⟨hvar, hsource⟩ := h
    have hin : Text.IsWord "in".toList := Text.isWord_of_isIdentifier (by decide)
    simpa [arguments] using ⟨Text.isWord_of_isIdentifier hvar, hin, hsource.isWord_text⟩
  | choice condition negated =>
    have hnot : Text.IsWord "not".toList := Text.isWord_of_isIdentifier (by decide)
    cases negated with
    | false => simpa [arguments] using h.1.isWord_text
    | true => simpa [arguments] using ⟨hnot, h.1.isWord_text⟩

namespace TokenKind

theorem ofPiece_ofWords (offset : Nat) (tag : Tag) {arguments : List (List Char)}
    (h : ∀ word ∈ arguments, Text.IsWord word) :
    ofPiece offset (Piece.ofWords tag arguments) =
      (readArguments tag (arguments.map String.ofList)).mapError (.malformed tag offset ·) := by
  have hkeyword : Text.IsWord tag.keyword.toList :=
    Text.isWord_of_isIdentifier (by cases tag <;> decide)
  rw [Piece.ofWords, ofPiece, Text.words_spelled (List.forall_mem_cons.mpr ⟨hkeyword, h⟩),
    List.map_cons, String.ofList_toList, readWords, Tag.ofKeyword?_keyword]

theorem readTagPath_text {path : Path} (h : path.Readable) :
    readTagPath (String.ofList path.text) = .ok path := by
  simp [readTagPath, h.parse_text, Except.mapError]

theorem readArguments_opening {block : Opening} (h : (Mark.opening block).Plain) :
    readArguments block.tag (block.arguments.map String.ofList) = .ok (.opening block) := by
  cases block with
  | loop var source =>
    obtain ⟨hvar, hsource⟩ := h
    simp [Opening.tag, Opening.arguments, readArguments, hvar, readTagPath_text hsource, Except.map]
  | choice condition negated =>
    obtain ⟨hcondition, hnot⟩ := h
    cases negated with
    | true =>
      simp [Opening.tag, Opening.arguments, readArguments, readTagPath_text hcondition, Except.map]
    | false =>
      have hword : String.ofList condition.text ≠ "not" := by
        intro hword
        refine hnot rfl (hcondition.eq_of_text Path.readable_not ?_)
        rw [← String.toList_ofList (l := condition.text), hword]
        rfl
      simp [Opening.tag, Opening.arguments, readArguments, readTagPath_text hcondition, Except.map]

theorem ofPiece_opening (offset : Nat) {block : Opening} (h : (Mark.opening block).Plain) :
    ofPiece offset (Piece.ofWords block.tag block.arguments) = .ok (.opening block) := by
  rw [ofPiece_ofWords offset _ (Opening.isWord_of_mem_arguments h), readArguments_opening h]
  rfl

theorem ofPiece_branch (offset : Nat) {tag : Tag} (h : (Mark.branch tag).Plain) :
    ofPiece offset (Piece.ofWords tag []) = .ok (.branch tag) := by
  rw [ofPiece_ofWords offset tag (List.forall_mem_nil _)]
  rcases h with rfl | rfl <;> rfl

theorem ofPiece_closing (offset : Nat) {tag : Tag} (h : (Mark.closing tag).Plain) :
    ofPiece offset (Piece.ofWords tag []) = .ok (.closing tag) := by
  rw [ofPiece_ofWords offset tag (List.forall_mem_nil _)]
  rcases h with rfl | rfl <;> rfl

theorem isWord_name (brace : Brace) : Text.IsWord brace.name.toList :=
  Text.isWord_of_isIdentifier (by cases brace <;> decide)

theorem ofPiece_openBrace (offset : Nat) :
    ofPiece offset Piece.openBrace = .ok (.named .openBrace) := by
  rw [Piece.openBrace, ofPiece_ofWords offset .brace (by simpa using isWord_name .openBrace)]
  simp [readArguments, Except.mapError]

-- ---------------------------------------------------------------------------
-- Output tags
-- ---------------------------------------------------------------------------

theorem readFilters_cons {name : String} {part : List Char} {parts : List (List Char)}
    {filters : List String} (hname : Text.isIdentifier name.toList = true)
    (hpart : Text.Padded name.toList part) (hparts : readFilters parts = .ok filters) :
    readFilters (part :: parts) = .ok (name :: filters) := by
  obtain ⟨hne, hword⟩ := Text.isWord_of_isIdentifier hname
  have htrim : Text.trim part = name.toList := (Text.trim_eq_iff hword).mpr hpart
  have hcolon : ':' ∉ name.toList := Text.not_mem_of_isIdentifier hname (by decide)
  have hempty : name.toList.isEmpty = false := by simpa using hne
  rw [readFilters]
  simp [htrim, hempty, hcolon, hname, hparts, Except.map]

/-- The fields of an output tag: what stands before the first bar, and the filters. The last field
has the blank that ends the tag. -/
theorem split_filters {front : List Char} {filters : List String} (hfront : '|' ∉ front)
    (h : ∀ name ∈ filters, Text.isIdentifier name.toList = true) :
    ∃ back parts, Text.split (· == '|')
        (front ++ (filters.flatMap (fun name => '|' :: name.toList) ++ [' '])) =
          (front ++ back, parts) ∧
      (∀ c ∈ back, Text.isBlank c = true) ∧ readFilters parts = .ok filters := by
  induction filters generalizing front with
  | nil =>
    refine ⟨[' '], [], ?_, List.forall_mem_singleton.mpr (by decide), rfl⟩
    exact Text.split_of_forall (Text.beq_eq_false_of_not_mem (by simpa using hfront))
  | cons name filters ih =>
    obtain ⟨hname, hrest⟩ := List.forall_mem_cons.mp h
    have hbar : '|' ∉ name.toList := Text.not_mem_of_isIdentifier hname (by decide)
    obtain ⟨back, parts, hsplit, hback, hparts⟩ := ih hbar hrest
    refine ⟨[], (name.toList ++ back) :: parts, ?_, List.forall_mem_nil _,
      readFilters_cons hname ⟨[], back, Text.isGap_nil, hback, rfl⟩ hparts⟩
    rw [List.flatMap_cons, List.cons_append, List.cons_append, List.append_assoc,
      Text.split_append_cons _ (Text.beq_eq_false_of_not_mem hfront) (beq_self_eq_true '|'),
      Text.fields, hsplit, List.append_nil]

theorem ofPiece_output (offset : Nat) {path : Path} {filters : List String} {place : Nat}
    (h : (Mark.output path filters place).Plain) :
    ofPiece offset (Piece.ofOutput path filters) = .ok (.output path filters) := by
  obtain ⟨hpath, hfilters⟩ := h
  have hbar : '|' ∉ ' ' :: path.text := by
    simpa using hpath.not_mem_text (by decide) (by decide)
  obtain ⟨back, parts, hsplit, hback, hparts⟩ := split_filters hbar hfilters
  have hparse : Path.parse (' ' :: path.text ++ back) = .ok path :=
    hpath.parse_append [' '] (List.forall_mem_singleton.mpr (by decide)) hback
  rw [Piece.ofOutput, ofPiece, readOutput, List.append_assoc, hsplit]
  simp only [hparse, hparts]
  rfl

-- ---------------------------------------------------------------------------
-- What can be read
-- ---------------------------------------------------------------------------

theorem isIdentifier_of_readFilters {parts : List (List Char)} {filters : List String}
    (h : readFilters parts = .ok filters) :
    ∀ name ∈ filters, Text.isIdentifier name.toList = true := by
  induction parts generalizing filters with
  | nil =>
    cases h
    exact List.forall_mem_nil _
  | cons part parts ih =>
    simp only [readFilters] at h
    split at h
    · cases h
    split at h
    · cases h
    split at h
    · next hname =>
      obtain ⟨rest, hrest, rfl⟩ := map_ok.mp h
      exact List.forall_mem_cons.mpr ⟨by simpa using hname, ih hrest⟩
    · cases h

theorem readable_of_readTagPath {word : String} {path : Path} (h : readTagPath word = .ok path) :
    path.Readable ∧ (Text.IsWord word.toList → path.text = word.toList) := by
  have hparse : Path.parse word.toList = .ok path := mapError_ok.mp h
  refine ⟨⟨word.toList, hparse⟩, fun hword => ?_⟩
  rw [(Path.parse_eq_ok_iff.mp hparse).1, Text.trim_of_forall hword.2]

theorem text_ne_empty (brace : Brace) : brace.text ≠ "" := by
  cases brace <;> decide

theorem plain_of_readArguments {tag : Tag} {arguments : List String} {kind : TokenKind}
    (hwords : ∀ word ∈ arguments, Text.IsWord word.toList)
    (h : readArguments tag arguments = .ok kind) (span : Span) :
    (Token.mk kind span).mark.Plain := by
  revert h
  fun_cases readArguments tag arguments
  case case1 var source hvar =>
    intro h
    obtain ⟨path, hpath, rfl⟩ := map_ok.mp h
    exact ⟨hvar, (readable_of_readTagPath hpath).1⟩
  case case6 condition hnot =>
    intro h
    obtain ⟨path, hpath, rfl⟩ := map_ok.mp h
    obtain ⟨hreadable, htext⟩ := readable_of_readTagPath hpath
    -- The path of the one word `not` has that word as its text.
    refine ⟨hreadable, fun _ hpath => hnot (String.toList_inj.mp ?_)⟩
    rw [← htext (hwords condition (by simp)), hpath]
    rfl
  case case7 condition =>
    intro h
    obtain ⟨path, hpath, rfl⟩ := map_ok.mp h
    exact ⟨(readable_of_readTagPath hpath).1, fun hnegated => absurd hnegated (by decide)⟩
  case case9 | case13 =>
    rintro ⟨⟩
    exact .inl rfl
  case case11 | case15 =>
    rintro ⟨⟩
    exact .inr rfl
  case case17 name brace _ =>
    rintro ⟨⟩
    exact text_ne_empty brace
  all_goals rintro ⟨⟩

theorem plain_of_readWords {offset : Nat} {words : List (List Char)} {kind : TokenKind}
    (hwords : ∀ word ∈ words, Text.IsWord word)
    (h : readWords offset (words.map String.ofList) = .ok kind) (span : Span) :
    (Token.mk kind span).mark.Plain := by
  cases words with
  | nil => cases h
  | cons word arguments =>
    simp only [List.map_cons, readWords] at h
    split at h
    · cases h
    · refine plain_of_readArguments ?_ (mapError_ok.mp h) span
      simpa using (List.forall_mem_cons.mp hwords).2

theorem plain_of_readOutput {body : List Char} {kind : TokenKind}
    (h : readOutput body = .ok kind) (span : Span) : (Token.mk kind span).mark.Plain := by
  simp only [readOutput] at h
  split at h
  · cases h
  · next path hpath =>
    obtain ⟨filters, hfilters, rfl⟩ := map_ok.mp h
    exact ⟨⟨_, hpath⟩, isIdentifier_of_readFilters hfilters⟩

theorem plain_of_ofPiece {offset : Nat} {piece : Piece} {kind : TokenKind}
    (hne : piece.source ≠ []) (h : ofPiece offset piece = .ok kind) (span : Span) :
    (Token.mk kind span).mark.Plain := by
  cases piece with
  | text content =>
    cases h
    exact fun hempty => hne (String.ofList_injective hempty)
  | tag delimiter body =>
    cases delimiter with
    | output => exact plain_of_readOutput (mapError_ok.mp h) span
    | block => exact plain_of_readWords (fun _ hw => Text.isWord_of_mem_words hw) h span
  | unterminated delimiter body => cases h

end TokenKind

namespace Token

theorem plain_of_scan {source : List Char} {tokens : List Token} (h : scan source = .ok tokens) :
    ∀ token ∈ tokens, token.mark.Plain := by
  intro token ht
  obtain ⟨front, piece, back, hcut, -, -, hread⟩ := mem_ofPieces h ht
  have hne := Piece.source_ne_nil_of_mem_cut source piece (by simp [hcut])
  exact TokenKind.plain_of_ofPiece hne hread token.span

end Token

end Stencil
