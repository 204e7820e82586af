import ExportTable.CSource.Lexer
import ExportTable.Signature

/-!
# Exported functions of a provider source

An exported function is a `static` definition at the top level whose name starts with the export
prefix and an underscore. The top level is what no brace encloses but those of a linkage block,
`extern "C" {`. Prototypes, variables, other functions and whatever stands in a body are passed over;
a definition that carries the prefix and cannot be understood is an error.

The tokens are read once, from left to right. From `static` on they are collected until the
declaration ends at a `{`, `;` or `=` outside parentheses; `readDeclaration` then looks for the
declared name and its parameter list.
-/

namespace ExportTable

open CSource

inductive ExtractionError where
  | lexical (error : LexError)
  | emptyName (line : Nat) (exportPrefix : String)
  | missingReturnType (line : Nat) (name : String)
  | missingParameters (line : Nat) (name : String)
  | unbalancedParameters (line : Nat) (name : String)
  | unexpectedToken (line : Nat) (name : String) (found : String)
  | unterminated (line : Nat) (name : String)
  deriving DecidableEq, Repr

def ExtractionError.message : ExtractionError → String
  | lexical e => e.message
  | emptyName line exportPrefix =>
    s!"line {line}: exported function has an empty name after `{exportPrefix}_`"
  | missingReturnType line name => s!"line {line}: exported function {name} has no return type"
  | missingParameters line name => s!"line {line}: exported function {name} has no parameter list"
  | unbalancedParameters line name =>
    s!"line {line}: unbalanced parameter list for exported function {name}"
  | unexpectedToken line name found =>
    s!"line {line}: unexpected `{found}` after the parameter list of {name}"
  | unterminated line name => s!"line {line}: exported function {name} is not terminated"

namespace Extraction

/-- A declaration cut at the declared name. -/
structure Declarator where
  returnType : List Token
  name : Token
  rest : List Token

def splitAtLastIdentifier : List Token → Option Declarator
  | [] => none
  | t :: ts =>
    match splitAtLastIdentifier ts with
    | some d => some { d with returnType := t :: d.returnType }
    | none => if t.kind = .identifier then some ⟨[], t, ts⟩ else none

/-- The declared name is the identifier right before the first parenthesis; without a parenthesis,
the last identifier. -/
def declarator? (declaration : List Token) : Option Declarator :=
  let front := declaration.takeWhile (!·.isPunctuation '(')
  match declaration.dropWhile (!·.isPunctuation '(') with
  | [] => splitAtLastIdentifier declaration
  | rest =>
    match front.getLast? with
    | some name => if name.kind = .identifier then some ⟨front.dropLast, name, rest⟩ else none
    | none => none

/-- Splits after the parenthesis that closes the outermost of `depth` open ones. -/
def closeParentheses (depth : Nat) : List Token → Option (List Token × List Token)
  | [] => none
  | t :: ts =>
    if t.isPunctuation '(' then
      (closeParentheses (depth + 1) ts).map fun (inner, rest) ↦ (t :: inner, rest)
    else if t.isPunctuation ')' then
      if depth ≤ 1 then some ([t], ts)
      else (closeParentheses (depth - 1) ts).map fun (inner, rest) ↦ (t :: inner, rest)
    else
      (closeParentheses depth ts).map fun (inner, rest) ↦ (t :: inner, rest)

/-- The signature of a definition whose exported name, without the prefix, is `name`. -/
def readDefinition (exportPrefix name : String) (d : Declarator) :
    Except ExtractionError Signature :=
  if name = "" then
    .error (.emptyName d.name.line exportPrefix)
  else if d.returnType = [] then
    .error (.missingReturnType d.name.line name)
  else if !d.rest.head?.any (·.isPunctuation '(') then
    .error (.missingParameters d.name.line name)
  else
    match closeParentheses 0 d.rest with
    | none => .error (.unbalancedParameters d.name.line name)
    | some (_, extra :: _) => .error (.unexpectedToken extra.line name extra.text)
    | some (parameters, []) => .ok ⟨render d.returnType, name, render parameters⟩

/-- The exported function of a `static` declaration, given the token that ended it, if any did. -/
def readDeclaration (exportPrefix : String) (declaration : List Token) (ending : Option Token) :
    Except ExtractionError (Option Signature) :=
  match declarator? declaration with
  | none => .ok none
  | some d =>
    match (exportPrefix ++ "_").toList.isPrefixOf? d.name.text.toList with
    | none => .ok none
    | some rest =>
      let name := String.ofList rest
      match ending with
      | some t =>
        if t.isPunctuation '{' then (readDefinition exportPrefix name d).map some else .ok none
      | none =>
        if d.rest.head?.any (·.isPunctuation '(') then .error (.unterminated d.name.line name)
        else .ok none

/-- A `static` declaration whose end is not reached. -/
structure OpenDeclaration where
  /-- The number of open parentheses; a closing one without a partner counts for nothing. -/
  depth : Nat
  /-- The tokens after `static`, the latest first. -/
  tokens : List Token

/-- What the tokens read so far decide about the next one. -/
structure Scan where
  /-- One entry for each open brace, the innermost first: whether it opens a linkage block. -/
  scopes : List Bool
  /-- The tokens read, the latest first. -/
  read : List Token
  declaration : Option OpenDeclaration

namespace Scan

def initial : Scan := ⟨[], [], none⟩

def atTopLevel (s : Scan) : Bool := s.scopes.all id

/-- Whether an opening brace here belongs to a linkage block. -/
def opensLinkage (s : Scan) : Bool :=
  match s.read with
  | linkage :: keyword :: _ =>
    linkage.kind = .literal && linkage.text.toList.head? = some '"' && keyword.isWord "extern"
  | _ => false

/-- Reads a token outside declarations. -/
def pass (s : Scan) (t : Token) : Scan :=
  if t.isPunctuation '{' then ⟨s.opensLinkage :: s.scopes, t :: s.read, none⟩
  else if t.isPunctuation '}' then ⟨s.scopes.tail, t :: s.read, none⟩
  else if t.isWord "static" && s.atTopLevel then ⟨s.scopes, t :: s.read, some ⟨0, []⟩⟩
  else ⟨s.scopes, t :: s.read, none⟩

end Scan

def endsDeclaration (t : Token) : Bool :=
  t.isPunctuation '{' || t.isPunctuation ';' || t.isPunctuation '='

def OpenDeclaration.add (d : OpenDeclaration) (t : Token) : OpenDeclaration where
  depth :=
    if t.isPunctuation '(' then d.depth + 1
    else if t.isPunctuation ')' then d.depth - 1
    else d.depth
  tokens := t :: d.tokens

/-- Reads one token: the state after it, and the exported function whose declaration it ends. -/
def Scan.step (exportPrefix : String) (s : Scan) (t : Token) :
    Except ExtractionError (Scan × Option Signature) :=
  match s.declaration with
  | none => .ok (s.pass t, none)
  | some d =>
    if d.depth = 0 ∧ endsDeclaration t then
      (readDeclaration exportPrefix d.tokens.reverse (some t)).map fun found ↦ (s.pass t, found)
    else
      .ok (⟨s.scopes, t :: s.read, some (d.add t)⟩, none)

def extractFrom (exportPrefix : String) (s : Scan) :
    List Token → Except ExtractionError (List Signature)
  | [] =>
    match s.declaration with
    | none => .ok []
    | some d => (readDeclaration exportPrefix d.tokens.reverse none).map Option.toList
  | t :: ts => do
    let (s, found) ← s.step exportPrefix t
    let later ← extractFrom exportPrefix s ts
    return found.toList ++ later

end Extraction

/-- The exported functions of a token stream, in source order. -/
def extractTokens (exportPrefix : String) (tokens : List Token) :
    Except ExtractionError (List Signature) :=
  Extraction.extractFrom exportPrefix .initial tokens

/-- The exported functions of a provider source, in source order. -/
def extractSignatures (exportPrefix source : String) : Except ExtractionError (List Signature) :=
  match tokenize source with
  | .error e => .error (.lexical e)
  | .ok tokens => extractTokens exportPrefix tokens

end ExportTable
