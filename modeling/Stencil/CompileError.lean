import Stencil.Path
import Stencil.Tag

/-!
# Compile errors

Why a text is no template, as causes. Every cause carries the byte offset of the tag at fault.
-/

namespace Stencil

inductive TagFault where
  | loopShape
  | loopVariable
  | missingCondition
  | missingNegated
  | choiceShape
  | takesNothing
  | braceShape
  | braceName (name : String)
  | path (fault : Path.Fault)
  deriving DecidableEq, Repr

def TagFault.message : TagFault → String
  | .loopShape => "expected `for <name> in <path>`"
  | .loopVariable => "loop variable must be a plain name"
  | .missingCondition => "missing condition path"
  | .missingNegated => "missing path after `not`"
  | .choiceShape => "expected `if [not] <path>`"
  | .takesNothing => "takes no arguments"
  | .braceShape => "expected `templatetag <name>`"
  | .braceName name => s!"unknown name `{name}`"
  | .path fault => fault.message

inductive OutputFault where
  | path (fault : Path.Fault)
  | emptyFilter
  | filterArguments (filter : String)
  | filterName (filter : String)
  deriving DecidableEq, Repr

def OutputFault.message : OutputFault → String
  | .path fault => fault.message
  | .emptyFilter => "empty filter name"
  | .filterArguments filter => s!"filter `{filter}` takes no arguments"
  | .filterName filter => s!"`{filter}` is not a valid filter name"

inductive CompileError where
  | unterminated (delimiter : Delimiter) (offset : Nat)
  | unknownKeyword (word : String) (offset : Nat)
  | malformed (tag : Tag) (offset : Nat) (fault : TagFault)
  | invalidOutput (expression : String) (offset : Nat) (fault : OutputFault)
  | mismatched (found opened : Tag) (openedOffset offset : Nat)
  | unopened (tag : Tag) (offset : Nat)
  | misplaced (tag : Tag) (offset : Nat)
  | unclosed (tag : Tag) (offset : Nat)
  deriving DecidableEq, Repr

namespace CompileError

def offset : CompileError → Nat
  | .unterminated _ offset => offset
  | .unknownKeyword _ offset => offset
  | .malformed _ offset _ => offset
  | .invalidOutput _ offset _ => offset
  | .mismatched _ _ _ offset => offset
  | .unopened _ offset => offset
  | .misplaced _ offset => offset
  | .unclosed _ offset => offset

def tag? : CompileError → Option Tag
  | .malformed tag _ _ => some tag
  | .mismatched found _ _ _ => some found
  | .unopened tag _ => some tag
  | .misplaced tag _ => some tag
  | .unclosed tag _ => some tag
  | _ => none

/-- The same fault in a text that has `bytes` more bytes in front. -/
def shift (bytes : Nat) : CompileError → CompileError
  | .unterminated delimiter offset => .unterminated delimiter (bytes + offset)
  | .unknownKeyword word offset => .unknownKeyword word (bytes + offset)
  | .malformed tag offset fault => .malformed tag (bytes + offset) fault
  | .invalidOutput expression offset fault => .invalidOutput expression (bytes + offset) fault
  | .mismatched found opened openedOffset offset =>
    .mismatched found opened (bytes + openedOffset) (bytes + offset)
  | .unopened tag offset => .unopened tag (bytes + offset)
  | .misplaced tag offset => .misplaced tag (bytes + offset)
  | .unclosed tag offset => .unclosed tag (bytes + offset)

def message : CompileError → String
  | .unterminated delimiter offset =>
    s!"unterminated `{delimiter.opening}` at byte {offset}: expected `{delimiter.closing}`"
  | .unknownKeyword word offset => s!"unknown tag keyword `{word}` at byte {offset}"
  | .malformed tag offset fault =>
    s!"malformed `{tag.keyword}` tag at byte {offset}: {fault.message}"
  | .invalidOutput expression offset fault =>
    s!"invalid expression `{expression}` at byte {offset}: {fault.message}"
  | .mismatched found opened openedOffset offset =>
    s!"`{found.keyword}` at byte {offset} does not close `{opened.keyword}` " ++
      s!"opened at byte {openedOffset}"
  | .unopened tag offset => s!"`{tag.keyword}` at byte {offset} has no matching opening tag"
  | .misplaced tag offset => s!"`{tag.keyword}` at byte {offset} is not allowed here"
  | .unclosed tag offset => s!"`{tag.keyword}` opened at byte {offset} is never closed"

end CompileError

end Stencil
