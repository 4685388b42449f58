import Stencil.Token
import Stencil.Token.Piece

/-!
# Reading tokens

What each piece of a template text says. The pieces are read from the front, so the first fault in
the text is the one reported.
-/

namespace Stencil

namespace TokenKind

def readFilters : List (List Char) → Except OutputFault (List String)
  | [] => .ok []
  | part :: parts =>
    let name := Text.trim part
    if name.isEmpty then
      .error .emptyFilter
    else if name.contains ':' then
      .error (.filterArguments (String.ofList name))
    else if Text.isIdentifier name then
      (readFilters parts).map (String.ofList name :: ·)
    else
      .error (.filterName (String.ofList name))

def readOutput (body : List Char) : Except OutputFault TokenKind :=
  let (first, others) := Text.split (· == '|') body
  match Path.parse first with
  | .error fault => .error (.path fault)
  | .ok path => (readFilters others).map (.output path ·)

def readTagPath (word : String) : Except TagFault Path :=
  (Path.parse word.toList).mapError .path

def readArguments : Tag → List String → Except TagFault TokenKind
  | .loop, [var, "in", source] =>
    if Text.isIdentifier var.toList then
      (readTagPath source).map fun path => .opening (.loop var path)
    else
      .error .loopVariable
  | .loop, _ => .error .loopShape
  | .choice, [] => .error .missingCondition
  | .choice, ["not"] => .error .missingNegated
  | .choice, [condition] =>
    (readTagPath condition).map fun path => .opening (.choice path false)
  | .choice, ["not", condition] =>
    (readTagPath condition).map fun path => .opening (.choice path true)
  | .choice, _ => .error .choiceShape
  | .otherwise, [] => .ok (.branch .otherwise)
  | .otherwise, _ => .error .takesNothing
  | .empty, [] => .ok (.branch .empty)
  | .empty, _ => .error .takesNothing
  | .endLoop, [] => .ok (.closing .endLoop)
  | .endLoop, _ => .error .takesNothing
  | .endChoice, [] => .ok (.closing .endChoice)
  | .endChoice, _ => .error .takesNothing
  | .brace, [name] =>
    match Brace.ofName? name with
    | some found => .ok (.named found)
    | none => .error (.braceName name)
  | .brace, _ => .error .braceShape

def readWords (offset : Nat) : List String → Except CompileError TokenKind
  | [] => .error (.unknownKeyword "" offset)
  | word :: arguments =>
    match Tag.ofKeyword? word with
    | none => .error (.unknownKeyword word offset)
    | some tag => (readArguments tag arguments).mapError (.malformed tag offset ·)

def ofPiece (offset : Nat) : Piece → Except CompileError TokenKind
  | .text content => .ok (.literal (String.ofList content))
  | .tag .output body =>
    (readOutput body).mapError (.invalidOutput (String.ofList (Text.trim body)) offset ·)
  | .tag .block body => readWords offset ((Text.words body).map String.ofList)
  | .unterminated delimiter _ => .error (.unterminated delimiter offset)

end TokenKind

namespace Token

def ofPieces (offset : Nat) : List Piece → Except CompileError (List Token)
  | [] => .ok []
  | piece :: pieces =>
    match TokenKind.ofPiece offset piece with
    | .error error => .error error
    | .ok kind =>
      let stop := offset + piece.size
      (ofPieces stop pieces).map (⟨kind, ⟨offset, stop⟩⟩ :: ·)

def scan (source : List Char) : Except CompileError (List Token) :=
  ofPieces 0 (Piece.cut source)

end Token

end Stencil
