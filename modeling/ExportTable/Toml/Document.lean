import ExportTable.Toml.Literal
import ExportTable.Toml.Scalar

/-!
# TOML documents

A document is a list of statements, one on a line: headers, which start a table, and assignments to
keys of the latest table. `Table.ofDocument?` reads the statements and carries them out in order.
-/

namespace ExportTable.Toml

/-- The most parts that a dotted key may have. -/
def maximalKeyParts : Nat := 79

/-- How deeply arrays and inline tables may be nested. -/
def maximalDepth : Nat := 79

def isKeyChar (c : Char) : Bool := c.isAlphanum || c == '_' || c == '-'

def simpleKey? (cs : List Char) : Option (String × List Char) :=
  let text? : Option (List Char × List Char) :=
    match cs with
    | '"' :: rest => basicString rest
    | '\'' :: rest => literalString rest
    | _ =>
      match cs.span isKeyChar with
      | ([], _) => none
      | result => some result
  text?.map fun (text, rest) ↦ (String.ofList text, rest)

/-- A key of at most so many parts, and the blanks around it. -/
def key? : Nat → List Char → Option (List String × List Char)
  | 0, _ => none
  | parts + 1, cs =>
    match simpleKey? (skipBlanks cs) with
    | none => none
    | some (key, rest) =>
      match skipBlanks rest with
      | '.' :: rest => (key? parts rest).map fun (path, rest) ↦ (key :: path, rest)
      | rest => some ([key], rest)

def stringItem (scanned : Option (List Char × List Char)) : Option (Item × List Char) :=
  scanned.map fun (text, rest) ↦ (.string (String.ofList text), rest)

/-- Gives the last part of a path an item, in the table of the parts before it. -/
def assignPath (path : List String) (item : Item) (t : Table) : Option Table :=
  match path.getLast? with
  | none => none
  | some key => t.assign path.dropLast key item

mutual

/-- The item that starts the text; containers may be nested `depth` times. -/
def item? : Nat → Nat → List Char → Option (Item × List Char)
  | 0, _, _ => none
  | fuel + 1, depth, cs =>
    match cs with
    | '"' :: '"' :: '"' :: rest => stringItem (multilineBasic false (skipFirstNewline rest))
    | '"' :: rest => stringItem (basicString rest)
    | '\'' :: '\'' :: '\'' :: rest => stringItem (multilineLiteral (skipFirstNewline rest))
    | '\'' :: rest => stringItem (literalString rest)
    | '[' :: rest =>
      match depth with
      | 0 => none
      | depth + 1 =>
        (items? fuel depth (skipGaps false rest)).map fun (items, rest) ↦ (.array items, rest)
    | '\x7b' :: rest =>
      match depth with
      | 0 => none
      | depth + 1 =>
        match skipBlanks rest with
        | '\x7d' :: rest => some (.table .inline [], rest)
        | rest => (inlineTable? fuel depth ⟨.inline, []⟩ rest).map fun (t, rest) ↦ (t.item, rest)
    | _ => scalar? cs

/-- The items up to the end of an array, after any gap. A comma may follow the last one. -/
def items? : Nat → Nat → List Char → Option (List Item × List Char)
  | 0, _, _ => none
  | fuel + 1, depth, cs =>
    match cs with
    | ']' :: rest => some ([], rest)
    | _ =>
      match item? fuel depth cs with
      | none => none
      | some (item, rest) =>
        match skipGaps false rest with
        | ',' :: rest =>
          (items? fuel depth (skipGaps false rest)).map fun (items, rest) ↦ (item :: items, rest)
        | ']' :: rest => some ([item], rest)
        | _ => none

/-- Adds the assignments up to the end of an inline table. -/
def inlineTable? : Nat → Nat → Table → List Char → Option (Table × List Char)
  | 0, _, _, _ => none
  | fuel + 1, depth, t, cs =>
    match key? maximalKeyParts cs with
    | some (path, '=' :: rest) =>
      match item? fuel depth (skipBlanks rest) with
      | none => none
      | some (item, rest) =>
        match assignPath path item t with
        | none => none
        | some t =>
          match skipBlanks rest with
          | ',' :: rest => inlineTable? fuel depth t rest
          | '\x7d' :: rest => some (t, rest)
          | _ => none
    | _ => none

end

inductive Statement where
  /-- `[path]` -/
  | header (path : List String)
  /-- `[[path]]` -/
  | nextHeader (path : List String)
  /-- `path = item` -/
  | assignment (path : List String) (item : Item)
  deriving Repr

/-- The statement that starts the text. -/
def statement? (cs : List Char) : Option (Statement × List Char) :=
  match cs with
  | '[' :: '[' :: rest =>
    match key? maximalKeyParts rest with
    | some (path, ']' :: ']' :: rest) => some (.nextHeader path, rest)
    | _ => none
  | '[' :: rest =>
    match key? maximalKeyParts rest with
    | some (path, ']' :: rest) => some (.header path, rest)
    | _ => none
  | _ =>
    match key? maximalKeyParts cs with
    | some (path, '=' :: rest) =>
      (item? (2 * rest.length + 2) maximalDepth (skipBlanks rest)).map fun (item, rest) ↦
        (.assignment path item, rest)
    | _ => none

/-- The statements of at most so many lines. -/
def statements? : Nat → List Char → Option (List Statement)
  | 0, cs => if cs = [] then some [] else none
  | lines + 1, cs =>
    if cs = [] then some []
    else
      match endLine? cs with
      | some rest => statements? lines rest
      | none =>
        match statement? (skipBlanks cs) with
        | none => none
        | some (statement, rest) =>
          match endLine? rest with
          | none => none
          | some rest => (statements? lines rest).map (statement :: ·)

/-- A document under construction: all of it, and the path of the latest table. -/
structure Builder where
  root : Table
  latest : List String

namespace Builder

def start : Builder := ⟨⟨.header, []⟩, []⟩

def carryOut (b : Builder) : Statement → Option Builder
  | .header path => do
    let key ← path.getLast?
    return ⟨← b.root.openTable path.dropLast key, path⟩
  | .nextHeader path => do
    let key ← path.getLast?
    return ⟨← b.root.openNext path.dropLast key, path⟩
  | .assignment path item => do
    return ⟨← b.root.within .parent (assignPath path item) b.latest, b.latest⟩

end Builder

def dropByteOrderMark : List Char → List Char
  | '\ufeff' :: cs => cs
  | cs => cs

/-- The table that a document spells, if it is well-formed. -/
def Table.ofDocument? (text : String) : Option Table := do
  let cs := dropByteOrderMark text.toList
  let statements ← statements? cs.length cs
  let built ← statements.foldlM Builder.carryOut .start
  return built.root

end ExportTable.Toml
