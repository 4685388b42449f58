import Stencil.Proofs.Quoting
import Stencil.Proofs.Scopes

/-!
# Separators

Two ways to write a list with a separator between its elements: after each element but the last, or
before each element but the first. The loop tells by its progress which element that is. For any
name of the loop variable that does not hide the progress which is asked for, both write the
elements joined by the separator.
-/

namespace Stencil

/-- A source that writes the elements of `items` with a separator between neighbours, whatever else
is in the context and in the table. -/
def Template.Joins (source separator : String) : Prop :=
  ∃ template, compile source = .ok template ∧
    ∀ (items : List Value) (context : Context) (table : FilterTable),
      Entries.get? context "items" = some (.sequence items) →
        (template.render context table).result =
          .ok (separator.intercalate (items.map Value.output))

def Template.separatorAfter (var separator : String) : String :=
  "\x7b% for " ++ var ++ " in items %\x7d\x7b\x7b " ++ var ++ " \x7d\x7d\x7b% if not last %\x7d" ++
    separator ++ "\x7b% endif %\x7d\x7b% endfor %\x7d"

def Template.separatorBefore (var separator : String) : String :=
  "\x7b% for " ++ var ++ " in items %\x7d\x7b% if forloop.counter0 %\x7d" ++ separator ++
    "\x7b% endif %\x7d\x7b\x7b " ++ var ++ " \x7d\x7d\x7b% endfor %\x7d"

-- ---------------------------------------------------------------------------
-- Rounds
-- ---------------------------------------------------------------------------

theorem concat_ok (texts : List String) :
    concat (texts.map Except.ok) = .ok (String.join texts) := by
  induction texts with
  | nil => rfl
  | cons text texts ih =>
    rw [List.map_cons, concat, ih, String.join_cons]
    rfl

/-- What is left of the rounds from number `index` on, with a separator after each but the last. -/
theorem join_separatorAfter (separator : String) (items : List Value) {index count : Nat}
    (h : index + items.length = count) :
    String.join ((items.zipIdx index).map fun (item, index) =>
      item.output ++ if index + 1 = count then "" else separator) =
      separator.intercalate (items.map Value.output) := by
  induction items generalizing index with
  | nil => rfl
  | cons item items ih =>
    rw [List.length_cons] at h
    rw [List.zipIdx_cons, List.map_cons, String.join_cons, ih (by omega)]
    cases items with
    | nil =>
      have hlast : index + 1 = count := by simpa using h
      simp [hlast]
    | cons next items =>
      have hmore : index + 1 ≠ count := by
        rw [List.length_cons] at h
        omega
      simp [hmore]

theorem join_separatorBefore (separator first : String) (items : List Value) {index : Nat}
    (h : 0 < index) :
    first ++ String.join ((items.zipIdx index).map fun (item, index) =>
      (if index = 0 then "" else separator) ++ item.output) =
      separator.intercalate (first :: items.map Value.output) := by
  induction items generalizing index first with
  | nil => simp
  | cons item items ih =>
    rw [List.map_cons, String.intercalate_cons_cons, ← ih item.output (Nat.succ_pos index)]
    simp [h.ne', String.append_assoc]

-- ---------------------------------------------------------------------------
-- Bodies
-- ---------------------------------------------------------------------------

namespace Node

def separatorAfter (var separator : String) : List Node :=
  [.output ⟨var, []⟩ [] 0, .choice ⟨"last", []⟩ true (ofText separator) none]

def separatorBefore (var separator : String) : List Node :=
  [.choice ⟨"forloop", ["counter0"]⟩ false (ofText separator) none, .output ⟨var, []⟩ [] 0]

section
variable {var : String} (context : Context) (table : FilterTable) (separator : String)
  (item : Value) (index count : Nat) (frames : List Frame)

theorem meaningOf_pair {context : Context} {table : FilterTable} {frames : List Frame}
    {first second : Node} {front back : String}
    (hfirst : first.meaning context table frames = .ok front)
    (hsecond : second.meaning context table frames = .ok back) :
    meaningOf context table [first, second] frames = .ok (front ++ back) := by
  rw [meaningOf, meaningOf, hfirst, hsecond, meaningOf]
  exact congrArg (fun text => Except.ok (front ++ text)) String.append_empty

theorem meaning_output_var :
    meaning context table (.output ⟨var, []⟩ [] 0) (⟨var, item, index, count⟩ :: frames) =
      .ok item.output := by
  simp [meaning, resolve_eq, valueOf, FilterTable.change]

theorem meaningOf_separatorAfter (h : var ≠ "last") :
    meaningOf context table (separatorAfter var separator) (⟨var, item, index, count⟩ :: frames) =
      .ok (item.output ++ if index + 1 = count then "" else separator) := by
  have hlast : resolve context (⟨var, item, index, count⟩ :: frames) ⟨"last", []⟩ =
      .boolean (index + 1 == count) := by
    simp [resolve_eq, valueOf, h, Frame.progress?, Frame.progressName, Frame.bareNames,
      Frame.progress, Entries.get?_cons]
  have hchoice : meaning context table (.choice ⟨"last", []⟩ true (ofText separator) none)
      (⟨var, item, index, count⟩ :: frames) =
        .ok (if index + 1 = count then "" else separator) := by
    rw [meaning, hlast, meaningOf_ofText, meaningOfOptional]
    by_cases hcount : index + 1 = count <;> simp [hcount, Value.isTruthy]
  rw [separatorAfter, meaningOf_pair (meaning_output_var ..) hchoice]

theorem meaningOf_separatorBefore (h : var ≠ "forloop") :
    meaningOf context table (separatorBefore var separator)
        (⟨var, item, index, count⟩ :: frames) =
      .ok ((if index = 0 then "" else separator) ++ item.output) := by
  have hcounter : resolve context (⟨var, item, index, count⟩ :: frames)
      ⟨"forloop", ["counter0"]⟩ = .integer index := by
    simp [resolve_eq, valueOf, h, Frame.progress?, Frame.progressName, Value.lookup_cons,
      Value.step?, Frame.progress, Entries.get?_cons]
  have hchoice : meaning context table
      (.choice ⟨"forloop", ["counter0"]⟩ false (ofText separator) none)
      (⟨var, item, index, count⟩ :: frames) = .ok (if index = 0 then "" else separator) := by
    rw [meaning, hcounter, meaningOf_ofText, meaningOfOptional]
    by_cases hindex : index = 0 <;> simp [hindex, Value.isTruthy]
  rw [separatorBefore, meaningOf_pair hchoice (meaning_output_var ..)]

end

-- ---------------------------------------------------------------------------
-- Texts of the bodies
-- ---------------------------------------------------------------------------

theorem normalBody_ofText (text : String) : NormalBody (ofText text) := by
  unfold ofText
  split
  · trivial
  · next hne => exact ⟨⟨hne, nofun⟩, trivial⟩

theorem spelling_ofText {text : String} (h : '\x7b' ∉ text.toList) :
    (marksOf (ofText text)).flatMap Mark.spelling = text.toList := by
  unfold ofText
  split
  · next hempty => simp [hempty, marksOf]
  · have hchars : text.toList.flatMap Mark.spellChar = text.toList.flatMap ([·]) := by
      refine List.flatMap_congr fun c hc => if_neg ?_
      rintro rfl
      exact h hc
    simp [marksOf, marks, Mark.spelling, hchars]

theorem readable_of_isIdentifier {name : String} (h : Text.isIdentifier name.toList = true) :
    Path.Readable ⟨name, []⟩ :=
  Path.readable_iff.mpr ⟨h, List.forall_mem_nil _⟩

theorem normalBody_separatorAfter {var : String} (h : Text.isIdentifier var.toList = true)
    (separator : String) : NormalBody (separatorAfter var separator) := by
  have hlast : Path.Readable ⟨"last", []⟩ := readable_of_isIdentifier (by decide)
  exact ⟨⟨⟨readable_of_isIdentifier h, List.forall_mem_nil _⟩, fun _ _ => trivial⟩,
    ⟨⟨⟨hlast, nofun⟩, normalBody_ofText separator, trivial⟩, nofun⟩, trivial⟩

theorem normalBody_separatorBefore {var : String} (h : Text.isIdentifier var.toList = true)
    (separator : String) : NormalBody (separatorBefore var separator) := by
  have hcounter : Path.Readable ⟨"forloop", ["counter0"]⟩ := ⟨"forloop.counter0".toList, rfl⟩
  exact ⟨⟨⟨⟨hcounter, fun _ => by decide⟩, normalBody_ofText separator, trivial⟩,
    fun _ _ => trivial⟩, ⟨⟨readable_of_isIdentifier h, List.forall_mem_nil _⟩, nofun⟩, trivial⟩

theorem print_loop (var : String) (body : List Node) :
    print [.loop var ⟨"items", []⟩ body none] =
      "\x7b% for " ++ var ++ " in items %\x7d" ++
        String.ofList ((marksOf body).flatMap Mark.spelling) ++ "\x7b% endfor %\x7d" := by
  rw [print, ← String.toList_inj, String.toList_ofList]
  simp [marksOf, marks, marksOfBranch, Mark.spelling, Piece.ofWords, Opening.arguments,
    Opening.tag, Tag.keyword, Piece.source, Path.text, Text.join, Delimiter.inner,
    Delimiter.innerClose]

theorem spelling_output (var : String) :
    (marks (.output ⟨var, []⟩ [] 0)).flatMap Mark.spelling =
      ("\x7b\x7b " ++ var ++ " \x7d\x7d").toList := by
  simp [marks, Mark.spelling, Piece.ofOutput, Piece.source, Path.text, Text.join, Delimiter.inner,
    Delimiter.innerClose]

theorem spelling_choice (condition : Path) (negated : Bool) {words text : String}
    (hwords : (Opening.choice condition negated).arguments.flatMap (· ++ [' ']) =
      (words ++ " ").toList) (h : '\x7b' ∉ text.toList) :
    (marks (.choice condition negated (ofText text) none)).flatMap Mark.spelling =
      ("\x7b% if " ++ words ++ " %\x7d" ++ text ++ "\x7b% endif %\x7d").toList := by
  simp [marks, marksOfBranch, Mark.spelling, spelling_ofText h, Piece.ofWords, hwords,
    Opening.tag, Tag.keyword, Piece.source, Delimiter.inner, Delimiter.innerClose]

theorem print_separatorAfter (var : String) {separator : String}
    (h : '\x7b' ∉ separator.toList) :
    print [.loop var ⟨"items", []⟩ (separatorAfter var separator) none] =
      Template.separatorAfter var separator := by
  have hwords : (Opening.choice ⟨"last", []⟩ true).arguments.flatMap (· ++ [' ']) =
      ("not last" ++ " ").toList := by decide
  have hchoice := spelling_choice ⟨"last", []⟩ true hwords h
  rw [print_loop, ← String.toList_inj]
  simp [separatorAfter, marksOf, spelling_output, hchoice, Template.separatorAfter]

theorem print_separatorBefore (var : String) {separator : String}
    (h : '\x7b' ∉ separator.toList) :
    print [.loop var ⟨"items", []⟩ (separatorBefore var separator) none] =
      Template.separatorBefore var separator := by
  have hwords : (Opening.choice ⟨"forloop", ["counter0"]⟩ false).arguments.flatMap (· ++ [' ']) =
      ("forloop.counter0" ++ " ").toList := by decide
  have hchoice := spelling_choice ⟨"forloop", ["counter0"]⟩ false hwords h
  rw [print_loop, ← String.toList_inj]
  simp [separatorBefore, marksOf, spelling_output, hchoice, Template.separatorBefore]

end Node

-- ---------------------------------------------------------------------------
-- Templates
-- ---------------------------------------------------------------------------

namespace Template

/-- A loop over `items` joins the elements if the texts of its rounds do. -/
theorem joins_of_rounds {var separator : String} {body : List Node}
    (hvar : Text.isIdentifier var.toList = true) (hbody : Node.NormalBody body)
    {round : Value → Nat → Nat → String}
    (hround : ∀ context table item index count,
      Node.meaningOf context table body [⟨var, item, index, count⟩] =
        .ok (round item index count))
    (hrounds : ∀ items : List Value,
      String.join (items.zipIdx.map fun (item, index) => round item index items.length) =
        separator.intercalate (items.map Value.output)) :
    Joins (Node.print [.loop var ⟨"items", []⟩ body none]) separator := by
  have hitems : Path.Readable ⟨"items", []⟩ := Node.readable_of_isIdentifier (by decide)
  have hnormal : Node.NormalBody [.loop var ⟨"items", []⟩ body none] :=
    ⟨⟨⟨⟨hvar, hitems⟩, hbody, trivial⟩, nofun⟩, trivial⟩
  obtain ⟨template, hcompile, halike⟩ := Node.compile_print_of_normal hnormal
  refine ⟨template, hcompile, fun items context table h => ?_⟩
  have hresolve : resolve context [] ⟨"items", []⟩ = .sequence items := by
    simp [resolve_eq, valueOf, h]
  have hloop : Node.meaning context table (.loop var ⟨"items", []⟩ body none) [] =
      .ok (separator.intercalate (items.map Value.output)) := by
    rw [Node.meaning, hresolve, ← hrounds items, ← concat_ok, List.map_map]
    cases items with
    | nil => rfl
    | cons first others => simp only [hround, Function.comp_def]
  have hresult : (render ⟨[.loop var ⟨"items", []⟩ body none]⟩ context table).result =
      .ok (separator.intercalate (items.map Value.output)) := by
    rw [render, renderNodes_result, Node.meaningOf, hloop, Node.meaningOf]
    exact congrArg Except.ok String.append_empty
  have hrender := render_of_alike halike context table
  rw [hresult] at hrender
  exact mapError_ok.mp hrender

/-- Both ways of separating elements give templates that join them, for any name of the loop
variable that does not hide the progress which is asked for, and for any separator without an
opening brace. -/
theorem joins_of_separator {var separator : String} (hvar : Text.isIdentifier var.toList = true)
    (hseparator : '\x7b' ∉ separator.toList) :
    (var ≠ "last" → Joins (separatorAfter var separator) separator) ∧
    (var ≠ "forloop" → Joins (separatorBefore var separator) separator) := by
  refine ⟨fun hlast => ?_, fun hforloop => ?_⟩
  · rw [← Node.print_separatorAfter var hseparator]
    refine joins_of_rounds hvar (Node.normalBody_separatorAfter hvar separator)
      (fun context table item index count =>
        Node.meaningOf_separatorAfter context table separator item index count [] hlast)
      fun items => join_separatorAfter separator items (Nat.zero_add _)
  · rw [← Node.print_separatorBefore var hseparator]
    refine joins_of_rounds hvar (Node.normalBody_separatorBefore hvar separator)
      (fun context table item index count =>
        Node.meaningOf_separatorBefore context table separator item index count [] hforloop)
      fun items => ?_
    cases items with
    | nil => rfl
    | cons first others =>
      rw [List.map_cons, ← join_separatorBefore separator first.output others Nat.one_pos]
      simp

/-- The variable of the first loop hides the list, and that of the second a name of progress. The
separators are one that looks like the end of a tag, and none at all. -/
theorem joins_of_separator_index :
    (Text.isIdentifier "items".toList = true ∧ '\x7b' ∉ " %\x7d\n".toList ∧
      Joins ("\x7b% for items in items %\x7d\x7b\x7b items \x7d\x7d\x7b% if not last %\x7d" ++
        " %\x7d\n" ++ "\x7b% endif %\x7d\x7b% endfor %\x7d") " %\x7d\n") ∧
      Joins ("\x7b% for index in items %\x7d\x7b% if forloop.counter0 %\x7d" ++
        "\x7b% endif %\x7d\x7b\x7b index \x7d\x7d\x7b% endfor %\x7d") "" := by
  have hvar : Text.isIdentifier "items".toList = true := by decide
  have hseparator : '\x7b' ∉ " %\x7d\n".toList := by decide
  have hafter := (joins_of_separator hvar hseparator).1 (by decide)
  have hindex : Text.isIdentifier "index".toList = true := by decide
  have hempty : '\x7b' ∉ "".toList := by decide
  have hbefore := (joins_of_separator hindex hempty).2 (by decide)
  exact ⟨⟨hvar, hseparator, hafter⟩, hbefore⟩

end Template

end Stencil
