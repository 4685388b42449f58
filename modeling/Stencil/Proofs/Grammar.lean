import Stencil.Proofs.Scanning
import Stencil.Proofs.Spacing
import Stencil.Proofs.Spelling

/-!
# Grammar

What may stand between the delimiters of a tag, as a grammar over the characters. A tag is read just
when its body can be derived, and then it says what the derivation says; any other body is refused
with the fault of its keyword, or of the expression.
-/

namespace Stencil

namespace Text

def IsLetter (c : Char) : Prop :=
  'A' ≤ c ∧ c ≤ 'Z' ∨ 'a' ≤ c ∧ c ≤ 'z'

def IsDigit (c : Char) : Prop :=
  '0' ≤ c ∧ c ≤ '9'

inductive IsName : List Char → Prop
  | intro {first : Char} {others : List Char} (hfirst : IsLetter first ∨ first = '_')
      (hothers : ∀ c ∈ others, IsLetter c ∨ IsDigit c ∨ c = '_') : IsName (first :: others)

def IsNumber (text : List Char) : Prop :=
  text ≠ [] ∧ ∀ c ∈ text, IsDigit c

theorem isAlpha_iff {c : Char} : c.isAlpha = true ↔ IsLetter c := by
  simp [Char.isAlpha, Char.isUpper, Char.isLower, IsLetter, Char.le_def]

theorem isDigit_iff {c : Char} : c.isDigit = true ↔ IsDigit c := by
  simp [Char.isDigit, IsDigit, Char.le_def]

theorem isIdentifier_iff {text : List Char} : isIdentifier text = true ↔ IsName text := by
  cases text with
  | nil => exact ⟨nofun, nofun⟩
  | cons first others =>
    have hpart : ∀ c, isNamePart c = true ↔ IsLetter c ∨ IsDigit c ∨ c = '_' := by
      intro c
      simp [isNamePart, Char.isAlphanum, isAlpha_iff, isDigit_iff, or_assoc]
    simp only [isIdentifier, isNameStart, Bool.and_eq_true, Bool.or_eq_true, isAlpha_iff,
      beq_iff_eq, List.all_eq_true, hpart]
    constructor
    · rintro ⟨hfirst, hothers⟩
      exact .intro hfirst hothers
    · rintro ⟨hfirst, hothers⟩
      exact ⟨hfirst, hothers⟩

theorem isIndex_iff {text : List Char} : isIndex text = true ↔ IsNumber text := by
  simp [isIndex, IsNumber, isDigit_iff]

end Text

-- ---------------------------------------------------------------------------
-- Paths
-- ---------------------------------------------------------------------------

/-- How a path is written: a name, then names and numbers with dots before them. -/
inductive Path.Written : Path → List Char → Prop
  | head {name : String} (hname : Text.IsName name.toList) : Written ⟨name, []⟩ name.toList
  | segment {head segment : String} {rest : List String} {text : List Char}
      (h : Written ⟨head, rest⟩ text)
      (hsegment : Text.IsName segment.toList ∨ Text.IsNumber segment.toList) :
      Written ⟨head, rest ++ [segment]⟩ (text ++ '.' :: segment.toList)

namespace Path

theorem text_concat (head : String) (rest : List String) (segment : String) :
    text ⟨head, rest ++ [segment]⟩ = text ⟨head, rest⟩ ++ '.' :: segment.toList := by
  simp [text, Text.join]

theorem written_iff {path : Path} {source : List Char} :
    path.Written source ↔ path.Readable ∧ source = path.text := by
  have hsegment : ∀ {segment : List Char}, IsSegment segment ↔
      Text.IsName segment ∨ Text.IsNumber segment :=
    or_congr Text.isIdentifier_iff Text.isIndex_iff
  simp only [readable_iff, hsegment, Text.isIdentifier_iff]
  constructor
  · intro h
    induction h with
    | head hname => exact ⟨⟨hname, List.forall_mem_nil _⟩, by simp [text, Text.join]⟩
    | segment _ hlast ih =>
      obtain ⟨⟨hhead, hrest⟩, rfl⟩ := ih
      refine ⟨⟨hhead, List.forall_mem_append.mpr ⟨hrest, ?_⟩⟩, (text_concat ..).symm⟩
      exact List.forall_mem_singleton.mpr hlast
  · obtain ⟨head, rest⟩ := path
    rintro ⟨⟨hhead, hrest⟩, rfl⟩
    induction rest using List.reverseRecOn with
    | nil => simpa [text, Text.join] using Written.head hhead
    | append_singleton rest last ih =>
      obtain ⟨hrest, hlast⟩ := List.forall_mem_append.mp hrest
      rw [text_concat]
      exact .segment (ih hhead hrest) (hlast last (List.mem_singleton_self last))

theorem parse_eq_ok_iff_written {source : List Char} {path : Path} :
    parse source = .ok path ↔ ∃ text, path.Written text ∧ Text.Padded text source := by
  simp only [written_iff]
  constructor
  · intro h
    refine ⟨path.text, ⟨⟨source, h⟩, rfl⟩, ?_⟩
    rw [(parse_eq_ok_iff.mp h).1]
    exact Text.padded_trim source
  · rintro ⟨_, ⟨h, rfl⟩, front, back, hfront, hback, rfl⟩
    exact h.parse_append front hfront hback

end Path

-- ---------------------------------------------------------------------------
-- Output tags
-- ---------------------------------------------------------------------------

/-- The bodies of output tags: a path, then filter names with bars before them, each with blanks
around it. -/
inductive OutputBody (path : Path) : List String → List Char → Prop
  | path {text body : List Char} (hpath : path.Written text) (hbody : Text.Padded text body) :
    OutputBody path [] body
  | filter {filters : List String} {body part : List Char} {name : String}
      (h : OutputBody path filters body) (hname : Text.IsName name.toList)
      (hpart : Text.Padded name.toList part) :
      OutputBody path (filters ++ [name]) (body ++ '|' :: part)

/-- A field of an output tag after the first: a filter name with blanks around it. -/
def FilterField (name : String) (part : List Char) : Prop :=
  Text.IsName name.toList ∧ Text.Padded name.toList part

theorem OutputBody.append_fields {path : Path} {filters more : List String} {body : List Char}
    {parts : List (List Char)} (h : OutputBody path filters body)
    (hparts : List.Forall₂ FilterField more parts) :
    OutputBody path (filters ++ more) (body ++ parts.flatMap ('|' :: ·)) := by
  induction hparts generalizing filters body with
  | nil => simpa using h
  | cons hfield _ ih => simpa using ih (h.filter hfield.1 hfield.2)

theorem outputBody_iff {path : Path} {filters : List String} {body : List Char} :
    OutputBody path filters body ↔
      ∃ first parts, body = Text.join '|' first parts ∧
        (∃ text, path.Written text ∧ Text.Padded text first) ∧
        List.Forall₂ FilterField filters parts := by
  constructor
  · intro h
    induction h with
    | @path text body hpath hbody =>
      exact ⟨body, [], by simp [Text.join], ⟨text, hpath, hbody⟩, .nil⟩
    | @filter filters body part name _ hname hpart ih =>
      obtain ⟨first, parts, rfl, hfirst, hparts⟩ := ih
      refine ⟨first, parts ++ [part], by simp [Text.join], hfirst, ?_⟩
      exact List.rel_append hparts (.cons ⟨hname, hpart⟩ .nil)
  · rintro ⟨first, parts, rfl, ⟨text, hpath, hfirst⟩, hparts⟩
    exact (OutputBody.path hpath hfirst).append_fields hparts

theorem bar_not_mem_of_fields {filters : List String} {parts : List (List Char)}
    (h : List.Forall₂ FilterField filters parts) : ∀ part ∈ parts, '|' ∉ part := by
  induction h with
  | nil => exact List.forall_mem_nil _
  | cons hfield _ ih =>
    have hname := Text.isIdentifier_iff.mpr hfield.1
    have hbar := Text.not_mem_of_isIdentifier (c := '|') hname (by decide)
    exact List.forall_mem_cons.mpr ⟨hfield.2.not_mem hbar (by decide), ih⟩

namespace TokenKind

theorem readFilters_eq_ok_iff {parts : List (List Char)} {filters : List String} :
    readFilters parts = .ok filters ↔ List.Forall₂ FilterField filters parts := by
  induction parts generalizing filters with
  | nil => cases filters <;> simp [readFilters]
  | cons part parts ih =>
    rw [List.forall₂_cons_right_iff]
    constructor
    · intro h
      simp only [readFilters] at h
      split at h
      · cases h
      split at h
      · cases h
      split at h
      · next hname =>
        obtain ⟨rest, hrest, rfl⟩ := map_ok.mp h
        refine ⟨String.ofList (Text.trim part), rest, ?_, ih.mp hrest, rfl⟩
        rw [FilterField, String.toList_ofList]
        exact ⟨Text.isIdentifier_iff.mp hname, Text.padded_trim part⟩
      · cases h
    · rintro ⟨name, rest, ⟨hname, hpart⟩, hrest, rfl⟩
      exact readFilters_cons (Text.isIdentifier_iff.mpr hname) hpart (ih.mpr hrest)

theorem readOutput_eq_ok_iff {body : List Char} {kind : TokenKind} :
    readOutput body = .ok kind ↔
      ∃ path filters, OutputBody path filters body ∧ kind = .output path filters := by
  simp only [outputBody_iff]
  constructor
  · intro h
    simp only [readOutput] at h
    split at h
    · cases h
    · next path hpath =>
      obtain ⟨filters, hfilters, rfl⟩ := map_ok.mp h
      exact ⟨path, filters, ⟨_, _, (Text.join_split '|' body).symm,
        Path.parse_eq_ok_iff_written.mp hpath, readFilters_eq_ok_iff.mp hfilters⟩, rfl⟩
  · rintro ⟨path, filters, ⟨first, parts, rfl, hpath, hparts⟩, rfl⟩
    have hfirst : '|' ∉ first := by
      obtain ⟨text, hwritten, hpadded⟩ := hpath
      obtain ⟨hreadable, rfl⟩ := Path.written_iff.mp hwritten
      exact hpadded.not_mem (hreadable.not_mem_text (by decide) (by decide)) (by decide)
    have hsplit := Text.split_join hfirst (bar_not_mem_of_fields hparts)
    have hparse := Path.parse_eq_ok_iff_written.mpr hpath
    have hread := readFilters_eq_ok_iff.mpr hparts
    simp only [readOutput, hsplit, hparse, hread]
    rfl

end TokenKind

-- ---------------------------------------------------------------------------
-- Block tags
-- ---------------------------------------------------------------------------

/-- The words of block tags, and what they say. -/
inductive TagWords : List String → TokenKind → Prop
  | loop {var word : String} {source : Path} (hvar : Text.IsName var.toList)
      (hsource : source.Written word.toList) :
      TagWords ["for", var, "in", word] (.opening (.loop var source))
  | choice {word : String} {condition : Path} (hcondition : condition.Written word.toList)
      (hnot : word ≠ "not") : TagWords ["if", word] (.opening (.choice condition false))
  | negated {word : String} {condition : Path} (hcondition : condition.Written word.toList) :
      TagWords ["if", "not", word] (.opening (.choice condition true))
  | otherwise : TagWords ["else"] (.branch .otherwise)
  | empty : TagWords ["empty"] (.branch .empty)
  | endLoop : TagWords ["endfor"] (.closing .endLoop)
  | endChoice : TagWords ["endif"] (.closing .endChoice)
  | brace (brace : Brace) : TagWords ["templatetag", brace.name] (.named brace)

namespace TokenKind

theorem readTagPath_eq_ok_iff {word : String} {path : Path} (h : Text.IsWord word.toList) :
    readTagPath word = .ok path ↔ path.Written word.toList := by
  rw [readTagPath, mapError_ok, Path.parse_eq_ok_iff_written]
  constructor
  · rintro ⟨text, hwritten, hpadded⟩
    have htext : ∀ c ∈ text, Text.isBlank c = false := by
      obtain ⟨hreadable, rfl⟩ := Path.written_iff.mp hwritten
      exact hreadable.isWord_text.2
    rwa [← (Text.trim_eq_iff htext).mpr hpadded, Text.trim_of_forall h.2] at hwritten
  · exact fun hwritten => ⟨_, hwritten, [], [], Text.isGap_nil, Text.isGap_nil, by simp⟩

theorem tagWords_of_readArguments {tag : Tag} {arguments : List String} {kind : TokenKind}
    (hwords : ∀ word ∈ arguments, Text.IsWord word.toList)
    (h : readArguments tag arguments = .ok kind) : TagWords (tag.keyword :: arguments) kind := by
  revert h
  fun_cases readArguments tag arguments
  case case1 var source hvar =>
    intro h
    obtain ⟨path, hpath, rfl⟩ := map_ok.mp h
    exact .loop (Text.isIdentifier_iff.mp hvar)
      ((readTagPath_eq_ok_iff (hwords source (by simp))).mp hpath)
  case case6 condition hnot =>
    intro h
    obtain ⟨path, hpath, rfl⟩ := map_ok.mp h
    exact .choice ((readTagPath_eq_ok_iff (hwords condition (by simp))).mp hpath) hnot
  case case7 condition =>
    intro h
    obtain ⟨path, hpath, rfl⟩ := map_ok.mp h
    exact .negated ((readTagPath_eq_ok_iff (hwords condition (by simp))).mp hpath)
  case case9 =>
    rintro ⟨⟩
    exact .otherwise
  case case11 =>
    rintro ⟨⟩
    exact .empty
  case case13 =>
    rintro ⟨⟩
    exact .endLoop
  case case15 =>
    rintro ⟨⟩
    exact .endChoice
  case case17 name brace hbrace =>
    rintro ⟨⟩
    rw [← Brace.name_of_ofName? hbrace]
    exact .brace brace
  all_goals rintro ⟨⟩

theorem readWords_keyword (offset : Nat) (tag : Tag) (arguments : List String) :
    readWords offset (tag.keyword :: arguments) =
      (readArguments tag arguments).mapError (.malformed tag offset ·) := by
  rw [readWords, Tag.ofKeyword?_keyword]

theorem readWords_eq_ok_iff {words : List String} {kind : TokenKind}
    (hwords : ∀ word ∈ words, Text.IsWord word.toList) (offset : Nat) :
    readWords offset words = .ok kind ↔ TagWords words kind := by
  constructor
  · intro h
    cases words with
    | nil => cases h
    | cons word arguments =>
      simp only [readWords] at h
      split at h
      · cases h
      · next tag hkeyword =>
        rw [← Tag.keyword_of_ofKeyword? hkeyword]
        exact tagWords_of_readArguments (List.forall_mem_cons.mp hwords).2 (mapError_ok.mp h)
  · intro h
    have hpath : ∀ {word : String} {path : Path}, word ∈ words → path.Written word.toList →
        readTagPath word = .ok path :=
      fun hword => (readTagPath_eq_ok_iff (hwords _ hword)).mpr
    cases h with
    | loop hvar hsource =>
      have hread := hpath (by simp) hsource
      have hname := Text.isIdentifier_iff.mpr hvar
      exact (readWords_keyword offset .loop _).trans
        (by simp [readArguments, hname, hread, Except.map, Except.mapError])
    | choice hcondition hnot =>
      have hread := hpath (by simp) hcondition
      exact (readWords_keyword offset .choice _).trans
        (by simp [readArguments, hread, Except.map, Except.mapError])
    | negated hcondition =>
      have hread := hpath (by simp) hcondition
      exact (readWords_keyword offset .choice _).trans
        (by simp [readArguments, hread, Except.map, Except.mapError])
    | otherwise => exact readWords_keyword offset .otherwise []
    | empty => exact readWords_keyword offset .empty []
    | endLoop => exact readWords_keyword offset .endLoop []
    | endChoice => exact readWords_keyword offset .endChoice []
    | brace brace =>
      exact (readWords_keyword offset .brace _).trans (by simp [readArguments, Except.mapError])

theorem readWords_of_not_keyword {words : List String}
    (h : ∀ tag : Tag, words.head? ≠ some tag.keyword) (offset : Nat) :
    readWords offset words = .error (.unknownKeyword (words.headD "") offset) := by
  cases words with
  | nil => rfl
  | cons word arguments =>
    have hunknown : Tag.ofKeyword? word = none := by
      cases hfound : Tag.ofKeyword? word with
      | none => rfl
      | some tag => exact (h tag (by simp [Tag.keyword_of_ofKeyword? hfound])).elim
    rw [readWords, hunknown]
    rfl

end TokenKind

-- ---------------------------------------------------------------------------
-- One tag
-- ---------------------------------------------------------------------------

namespace Piece

/-- Where a body holds no closing delimiter, it may only end with half of one if that is not the
half that the closing delimiter begins with. -/
theorem proper_tag_of_last {delimiter : Delimiter} {body : List Char}
    (h : ¬delimiter.closing.toList <:+: body)
    (hlast : delimiter.innerClose = '\x7d' → body.getLast? ≠ some '\x7d') :
    (tag delimiter body).Proper := by
  rw [Proper]
  rw [Delimiter.toList_closing, Text.not_pair_infix_iff] at h ⊢
  refine List.isChain_append.mpr ⟨h, List.isChain_singleton _, ?_⟩
  rintro last hl _ ⟨⟩ ⟨rfl, hbrace⟩
  rw [hbrace] at hl
  exact hlast hbrace hl

end Piece

namespace TokenKind

theorem ofPiece_output_eq_ok_iff {offset : Nat} {body : List Char} {kind : TokenKind} :
    ofPiece offset (.tag .output body) = .ok kind ↔
      ∃ path filters, OutputBody path filters body ∧ kind = .output path filters := by
  rw [ofPiece, mapError_ok, readOutput_eq_ok_iff]

theorem exists_fault_of_output {offset : Nat} {body : List Char}
    (h : ∀ path filters, ¬OutputBody path filters body) :
    ∃ fault, ofPiece offset (.tag .output body) =
      .error (.invalidOutput (String.ofList (Text.trim body)) offset fault) := by
  cases hread : readOutput body with
  | error fault => exact ⟨fault, by rw [ofPiece, hread]; rfl⟩
  | ok kind =>
    obtain ⟨path, filters, hbody, -⟩ := readOutput_eq_ok_iff.mp hread
    exact (h path filters hbody).elim

theorem ofPiece_block {body : List Char} {words : List String}
    (h : Text.Spaced (words.map String.toList) body) (offset : Nat) :
    ofPiece offset (.tag .block body) = readWords offset words := by
  have hid : String.ofList ∘ String.toList = id := funext fun _ => String.ofList_toList
  rw [ofPiece, Text.words_of_spaced h, List.map_map, hid, List.map_id]

theorem exists_fault_of_keyword {offset : Nat} {tag : Tag} {arguments : List String}
    (hwords : ∀ word ∈ tag.keyword :: arguments, Text.IsWord word.toList)
    (h : ∀ kind, ¬TagWords (tag.keyword :: arguments) kind) :
    ∃ fault,
      readWords offset (tag.keyword :: arguments) = .error (.malformed tag offset fault) := by
  cases hread : readArguments tag arguments with
  | error fault => exact ⟨fault, by rw [readWords_keyword, hread]; rfl⟩
  | ok kind =>
    exact (h kind (tagWords_of_readArguments (List.forall_mem_cons.mp hwords).2 hread)).elim

end TokenKind

theorem Text.Spaced.isWord {words : List String} {text : List Char}
    (h : Spaced (words.map String.toList) text) : ∀ word ∈ words, IsWord word.toList := by
  intro word hword
  have hmem : word.toList ∈ Text.words text := by
    rw [words_of_spaced h]
    exact List.mem_map_of_mem hword
  exact isWord_of_mem_words hmem

/-- A text is made of its words and of no others. -/
theorem Text.existsUnique_spaced (text : List Char) :
    ∃! words : List String, Spaced (words.map String.toList) text := by
  have hid : String.toList ∘ String.ofList = id := funext fun _ => String.toList_ofList
  refine ⟨(Text.words text).map String.ofList, ?_, fun words h => ?_⟩
  · simpa [hid] using words_eq_iff.mp rfl
  · refine List.map_injective_iff.mpr (fun _ _ => String.toList_inj.mp) ?_
    rw [List.map_map, hid, List.map_id, words_of_spaced h]

namespace Token

/-- A tag that ends where it is first closed is one token, or the fault of its body. -/
theorem scan_tag {delimiter : Delimiter} {body : List Char}
    (h : (Piece.tag delimiter body).Proper) :
    scan (delimiter.opening.toList ++ body ++ delimiter.closing.toList) =
      (TokenKind.ofPiece 0 (.tag delimiter body)).map fun kind =>
        [⟨kind, ⟨0, Text.byteSize (delimiter.opening.toList ++ body ++
          delimiter.closing.toList)⟩⟩] := by
  have hcut : Piece.cut (Piece.tag delimiter body).source = [.tag delimiter body] := by
    simpa [Piece.cut] using Piece.cut_tag_append h []
  rw [← Piece.source_tag, scan, hcut, ofPieces_cons, Nat.zero_add]
  cases TokenKind.ofPiece 0 (.tag delimiter body) <;> rfl

theorem scan_tag_eq_ok_iff {delimiter : Delimiter} {body : List Char}
    (h : (Piece.tag delimiter body).Proper) {tokens : List Token} :
    scan (delimiter.opening.toList ++ body ++ delimiter.closing.toList) = .ok tokens ↔
      ∃ kind, TokenKind.ofPiece 0 (.tag delimiter body) = .ok kind ∧
        tokens = [⟨kind, ⟨0, Text.byteSize (delimiter.opening.toList ++ body ++
          delimiter.closing.toList)⟩⟩] := by
  rw [scan_tag h, map_ok]
  simp only [eq_comm]

/-- A tag is read just when its body can be derived, as the one token that says what was derived. If
it cannot, an output tag is refused for its expression, and a block tag for the lack of a keyword or
for what follows its keyword. -/
theorem scan_iff_grammar :
    (∀ body : List Char, ¬Delimiter.output.closing.toList <:+: body →
      body.getLast? ≠ some '\x7d' →
      let source := Delimiter.output.opening.toList ++ body ++ Delimiter.output.closing.toList
      (∀ tokens, scan source = .ok tokens ↔ ∃ path filters, OutputBody path filters body ∧
        tokens = [⟨.output path filters, ⟨0, Text.byteSize source⟩⟩]) ∧
      ((∀ path filters, ¬OutputBody path filters body) → ∃ fault,
        scan source = .error (.invalidOutput (String.ofList (Text.trim body)) 0 fault))) ∧
    (∀ body : List Char, ∃! words : List String, Text.Spaced (words.map String.toList) body) ∧
    ∀ (body : List Char) (words : List String), ¬Delimiter.block.closing.toList <:+: body →
      Text.Spaced (words.map String.toList) body →
      let source := Delimiter.block.opening.toList ++ body ++ Delimiter.block.closing.toList
      (∀ tokens, scan source = .ok tokens ↔ ∃ kind, TagWords words kind ∧
        tokens = [⟨kind, ⟨0, Text.byteSize source⟩⟩]) ∧
      ((∀ kind, ¬TagWords words kind) →
        ((∀ tag : Tag, words.head? ≠ some tag.keyword) →
          scan source = .error (.unknownKeyword (words.headD "") 0)) ∧
        ∀ (tag : Tag) (arguments : List String), words = tag.keyword :: arguments → ∃ fault,
          scan source = .error (.malformed tag 0 fault)) := by
  refine ⟨fun body hclosing hlast => ?_, Text.existsUnique_spaced, fun body words hclosing h => ?_⟩
  · have hproper := Piece.proper_tag_of_last hclosing fun _ => hlast
    intro source
    refine ⟨fun tokens => ?_, fun hnone => ?_⟩
    · rw [scan_tag_eq_ok_iff hproper]
      simp only [TokenKind.ofPiece_output_eq_ok_iff]
      constructor
      · rintro ⟨_, ⟨path, filters, hbody, rfl⟩, htokens⟩
        exact ⟨path, filters, hbody, htokens⟩
      · rintro ⟨path, filters, hbody, htokens⟩
        exact ⟨_, ⟨path, filters, hbody, rfl⟩, htokens⟩
    · obtain ⟨fault, hfault⟩ := TokenKind.exists_fault_of_output hnone
      exact ⟨fault, by rw [scan_tag hproper, hfault]; rfl⟩
  · have hproper := Piece.proper_tag_of_last hclosing fun hbrace => absurd hbrace (by decide)
    intro source
    refine ⟨fun tokens => ?_, fun hnone => ⟨fun hkeyword => ?_, ?_⟩⟩
    · rw [scan_tag_eq_ok_iff hproper]
      simp only [TokenKind.ofPiece_block h, TokenKind.readWords_eq_ok_iff h.isWord]
      rfl
    · rw [scan_tag hproper, TokenKind.ofPiece_block h,
        TokenKind.readWords_of_not_keyword hkeyword]
      rfl
    · rintro tag arguments rfl
      obtain ⟨fault, hfault⟩ := TokenKind.exists_fault_of_keyword h.isWord hnone
      exact ⟨fault, by rw [scan_tag hproper, TokenKind.ofPiece_block h, hfault]; rfl⟩

/-- The word `not` may be a filter and the path that is negated. It may not be the only word after
the keyword. -/
theorem scan_iff_grammar_not :
    let output := " a.0 |upper|\u00a0not\u3000".toList
    let negated := " if not\u2003not".toList
    let alone := "if not ".toList
    ((¬Delimiter.output.closing.toList <:+: output ∧ output.getLast? ≠ some '\x7d') ∧
      OutputBody ⟨"a", ["0"]⟩ ["upper", "not"] output) ∧
    (¬Delimiter.block.closing.toList <:+: negated ∧
      Text.Spaced (["if", "not", "not"].map String.toList) negated ∧
      TagWords ["if", "not", "not"] (.opening (.choice ⟨"not", []⟩ true))) ∧
    (¬Delimiter.block.closing.toList <:+: alone ∧
      Text.Spaced (["if", "not"].map String.toList) alone ∧
      (∀ kind, ¬TagWords ["if", "not"] kind) ∧ ∃ fault,
      scan (Delimiter.block.opening.toList ++ alone ++ Delimiter.block.closing.toList) =
        .error (.malformed .choice 0 fault)) := by
  intro output negated alone
  have houtput : ¬Delimiter.output.closing.toList <:+: output ∧ output.getLast? ≠ some '\x7d' := by
    decide
  have hnegated : ¬Delimiter.block.closing.toList <:+: negated := by decide
  have halone : ¬Delimiter.block.closing.toList <:+: alone := by decide
  have hthree : Text.Spaced (["if", "not", "not"].map String.toList) negated :=
    Text.words_eq_iff.mp rfl
  have htwo : Text.Spaced (["if", "not"].map String.toList) alone := Text.words_eq_iff.mp rfl
  have hnone : ∀ kind, ¬TagWords ["if", "not"] kind := by
    intro kind h
    generalize hwords : ["if", "not"] = words at h
    cases h <;> simp_all
  obtain ⟨path, filters, hbody, htokens⟩ :=
    ((scan_iff_grammar.1 output houtput.1 houtput.2).1 _).mp rfl
  obtain ⟨kind, hkind, hread⟩ := ((scan_iff_grammar.2.2 negated _ hnegated hthree).1 _).mp rfl
  cases htokens
  cases hread
  exact ⟨⟨houtput, hbody⟩, ⟨hnegated, hthree, hkind⟩, halone, htwo, hnone,
    ((scan_iff_grammar.2.2 alone _ halone htwo).2 hnone).2 .choice ["not"] rfl⟩

end Token

end Stencil
