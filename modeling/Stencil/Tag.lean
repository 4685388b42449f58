/-!
# Tags

The fixed words of the template language: the two delimiters, the keywords of block tags, and the
names under which a template can write the characters that would otherwise open a tag. Reading a
word back gives what wrote it.
-/

namespace Stencil

/-- What surrounds a tag: braces for a value to write, percent signs for a block tag. -/
inductive Delimiter where
  | output
  | block
  deriving DecidableEq, Repr

namespace Delimiter

/-- The second character of the opening delimiter and the first of the closing one. -/
def inner : Delimiter → Char
  | .output => '{'
  | .block => '%'

def innerClose : Delimiter → Char
  | .output => '}'
  | .block => '%'

def opening (delimiter : Delimiter) : String :=
  String.ofList ['{', delimiter.inner]

def closing (delimiter : Delimiter) : String :=
  String.ofList [delimiter.innerClose, '}']

end Delimiter

/-- The block tags. An `empty` tag begins the branch of a loop over nothing. -/
inductive Tag where
  | loop
  | empty
  | endLoop
  | choice
  | otherwise
  | endChoice
  | brace
  deriving DecidableEq, Repr

namespace Tag

def keyword : Tag → String
  | .loop => "for"
  | .empty => "empty"
  | .endLoop => "endfor"
  | .choice => "if"
  | .otherwise => "else"
  | .endChoice => "endif"
  | .brace => "templatetag"

def all : List Tag :=
  [.loop, .empty, .endLoop, .choice, .otherwise, .endChoice, .brace]

def ofKeyword? (word : String) : Option Tag :=
  all.find? fun tag => tag.keyword == word

def closing? : Tag → Option Tag
  | .loop => some .endLoop
  | .choice => some .endChoice
  | _ => none

def owner : Tag → Tag
  | .otherwise => .choice
  | _ => .loop

theorem keyword_of_ofKeyword? {word : String} {tag : Tag} (h : ofKeyword? word = some tag) :
    tag.keyword = word := by
  simpa using List.find?_some h

@[simp] theorem ofKeyword?_keyword (tag : Tag) : ofKeyword? tag.keyword = some tag := by
  cases tag <;> decide

end Tag

inductive Brace where
  | openBlock
  | closeBlock
  | openVariable
  | closeVariable
  | openBrace
  | closeBrace
  | openComment
  | closeComment
  deriving DecidableEq, Repr

namespace Brace

def name : Brace → String
  | .openBlock => "openblock"
  | .closeBlock => "closeblock"
  | .openVariable => "openvariable"
  | .closeVariable => "closevariable"
  | .openBrace => "openbrace"
  | .closeBrace => "closebrace"
  | .openComment => "opencomment"
  | .closeComment => "closecomment"

def text : Brace → String
  | .openBlock => "\x7b%"
  | .closeBlock => "%\x7d"
  | .openVariable => "\x7b\x7b"
  | .closeVariable => "\x7d\x7d"
  | .openBrace => "\x7b"
  | .closeBrace => "\x7d"
  | .openComment => "\x7b#"
  | .closeComment => "#\x7d"

def all : List Brace :=
  [.openBlock, .closeBlock, .openVariable, .closeVariable, .openBrace, .closeBrace, .openComment,
    .closeComment]

def ofName? (name : String) : Option Brace :=
  all.find? fun brace => brace.name == name

theorem name_of_ofName? {name : String} {brace : Brace} (h : ofName? name = some brace) :
    brace.name = name := by
  simpa using List.find?_some h

@[simp] theorem ofName?_name (brace : Brace) : ofName? brace.name = some brace := by
  cases brace <;> decide

end Brace

end Stencil
