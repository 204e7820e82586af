import ExportTable.CSource.Identifier
import ExportTable.CSource.Token

/-!
# Splitting C source text into tokens

The text is cut into pieces, each of which is a token or a part of the gap between two tokens: one
white-space character, a comment, or a preprocessor directive. `pieceAt` decides what starts at a
character and how many of the characters after it belong to the same piece, so the pieces put
together are the text.
-/

namespace ExportTable.CSource

inductive LexFault where
  | unterminatedLiteral
  | unterminatedComment
  deriving DecidableEq, Repr

/-- A fault in the piece that starts on the given line. -/
structure LexError where
  line : Nat
  fault : LexFault
  deriving DecidableEq, Repr

def LexFault.message : LexFault → String
  | unterminatedLiteral => "unterminated literal"
  | unterminatedComment => "unterminated block comment"

def LexError.message (e : LexError) : String := s!"line {e.line}: {e.fault.message}"

def isSpace (c : Char) : Bool :=
  c == ' ' || c == '\t' || c == '\r' || c == '\n' || c == '\x0b' || c == '\x0c'

def continuesNumber (c : Char) : Bool := c.isAlphanum || c == '.'

/-- The length of the text before the next line feed. -/
def lineLength (cs : List Char) : Nat := (cs.takeWhile (· != '\n')).length

/-- The length of a block comment's text with its end mark, the start mark being read. -/
def commentLength : List Char → Option Nat
  | '*' :: '/' :: _ => some 2
  | _ :: cs => (commentLength cs).map (· + 1)
  | [] => none

/-- The length of a directive up to the first line feed that no backslash continues; a carriage
return may stand between the two. -/
def directiveLength : List Char → Nat
  | '\\' :: '\n' :: cs => directiveLength cs + 2
  | '\\' :: '\r' :: '\n' :: cs => directiveLength cs + 3
  | '\n' :: _ => 0
  | _ :: cs => directiveLength cs + 1
  | [] => 0

/-- The length of a literal's text with its closing quote, the opening one being read. A backslash
takes the character after it into the literal, whatever it is. -/
def literalLength (quote : Char) : List Char → Option Nat
  | '\\' :: _ :: cs => (literalLength quote cs).map (· + 2)
  | c :: cs =>
    if c = quote then some 1
    else if c = '\n' then none
    else (literalLength quote cs).map (· + 1)
  | [] => none

/-- A piece that starts at a given character: its token kind, or `none` in a gap, and the number of
further characters that belong to it. -/
structure Piece where
  kind : Option TokenKind
  further : Nat
  deriving DecidableEq, Repr

/-- The piece that starts with `c`. A number sign starts a directive only where no token precedes it
on its line. -/
def pieceAt (lineStart : Bool) (c : Char) (cs : List Char) : Except LexFault Piece :=
  if isSpace c then
    .ok ⟨none, 0⟩
  else if c = '/' ∧ cs.head? = some '/' then
    .ok ⟨none, lineLength cs⟩
  else if c = '/' ∧ cs.head? = some '*' then
    match commentLength cs.tail with
    | some n => .ok ⟨none, n + 1⟩
    | none => .error .unterminatedComment
  else if c = '#' ∧ lineStart then
    .ok ⟨none, directiveLength cs⟩
  else if c = '"' ∨ c = '\'' then
    match literalLength c cs with
    | some n => .ok ⟨some .literal, n⟩
    | none => .error .unterminatedLiteral
  else if startsIdentifier c then
    .ok ⟨some .identifier, (cs.takeWhile continuesIdentifier).length⟩
  else if c.isDigit then
    .ok ⟨some .number, (cs.takeWhile continuesNumber).length⟩
  else
    .ok ⟨some .punctuation, 0⟩

/-- What the text before a piece decides about it. -/
structure LexState where
  line : Nat
  /-- No part of a token stands since the last line feed. -/
  lineStart : Bool
  /-- A gap stands since the last token. -/
  spaced : Bool
  deriving DecidableEq, Repr

namespace LexState

def initial : LexState := ⟨1, true, false⟩

/-- The state after a piece with the given characters. -/
def after (s : LexState) (kind : Option TokenKind) (lexeme : List Char) : LexState where
  line := s.line + lexeme.count '\n'
  lineStart := kind.isNone && (s.lineStart || lexeme.contains '\n')
  spaced := kind.isNone

end LexState

def tokenizeFrom (s : LexState) : List Char → Except LexError (List Token)
  | [] => .ok []
  | c :: cs =>
    match pieceAt s.lineStart c cs with
    | .error fault => .error ⟨s.line, fault⟩
    | .ok piece =>
      let lexeme := c :: cs.take piece.further
      let rest := tokenizeFrom (s.after piece.kind lexeme) (cs.drop piece.further)
      match piece.kind with
      | none => rest
      | some kind => rest.map (⟨kind, String.ofList lexeme, s.line, s.spaced⟩ :: ·)
termination_by cs => cs.length
decreasing_by simp only [List.length_drop, List.length_cons]; omega

def tokenize (source : String) : Except LexError (List Token) :=
  tokenizeFrom .initial source.toList

end ExportTable.CSource
