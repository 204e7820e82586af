import ExportTable.Configuration
import ExportTable.Toml.Document

/-!
# Configurations in TOML

Each part of a configuration is a table; what it does not mention keeps its default, and what it
mentions beyond the known keys is passed over. A part may also be an array of its values in order,
with values left off at the end. The first misfit counts, tables being read in the order in which
their entries were made.
-/

namespace ExportTable.Configuration

open Toml

inductive DecodeError where
  /-- The text is no TOML, or a value has another type than its key asks for. -/
  | unfit
  | unknownFormat (name : String)
  deriving DecidableEq, Repr

/-- Only an unknown format is worded. -/
def DecodeError.message? : DecodeError → Option String
  | unfit => none
  | unknownFormat name => some s!"unknown variant `{name}`, expected `json` or `python`"

abbrev Decoder (α : Type) := Item → Except DecodeError α

/-- Reads a part into `default`: `set` stores the value of a key, and `keys` are the keys of the
values in an array. A date has no keys that a part could know. -/
def decodePart (keys : List String) (set : String → Item → α → Except DecodeError α)
    (default : α) : Decoder α
  | .table _ entries => entries.foldlM (fun a (key, item) ↦ set key item a) default
  | .array items => (keys.zip items).foldlM (fun a (key, item) ↦ set key item a) default
  | .tables earlier latest =>
    let items := (earlier ++ [latest]).map (Item.table .header)
    (keys.zip items).foldlM (fun a (key, item) ↦ set key item a) default
  | .dateTime => .ok default
  | _ => .error .unfit

def decodeText : Decoder String
  | .string s => .ok s
  | _ => .error .unfit

def decodeNatural : Decoder Nat
  | .integer i => if 0 ≤ i then .ok i.toNat else .error .unfit
  | _ => .error .unfit

def decodeFormatName (name : String) : Except DecodeError InfoFormat :=
  if name = InfoFormat.json.word then .ok .json
  else if name = InfoFormat.python.word then .ok .python
  else .error (.unknownFormat name)

/-- A format is a name, or a table that has the name as its only key, with nothing in it. -/
def decodeFormat : Decoder InfoFormat
  | .string name => decodeFormatName name
  | .table _ [(name, item)] => do
    let format ← decodeFormatName name
    if item.isEmpty then .ok format else .error .unfit
  | _ => .error .unfit

def Paths.keys : List String :=
  ["src_root", "provider_source", "type_definitions", "opcodes", "types", "version_file", "out_dir",
   "header_name"]

def Paths.set (key : String) (item : Item) (paths : Paths) : Except DecodeError Paths :=
  match key with
  | "src_root" => (decodeText item).map fun p ↦ { paths with sourceRoot := p }
  | "provider_source" => (decodeText item).map fun p ↦ { paths with providerSource := some p }
  | "type_definitions" => (decodeText item).map fun p ↦ { paths with typeDefinitions := some p }
  | "opcodes" => (decodeText item).map fun p ↦ { paths with opcodes := some p }
  | "types" => (decodeText item).map fun p ↦ { paths with elementTypes := some p }
  | "version_file" => (decodeText item).map fun p ↦ { paths with versionFile := some p }
  | "out_dir" => (decodeText item).map fun p ↦ { paths with outDir := p }
  | "header_name" => (decodeText item).map fun p ↦ { paths with headerName := p }
  | _ => .ok paths

def setName (key : String) (item : Item) (names : Interface.Names) :
    Except DecodeError Interface.Names :=
  match Interface.NameField.ofLabel? key with
  | some field => (decodeText item).map (names.set field)
  | none => .ok names

def Metadata.keys : List String := ["opcode_prefix", "format", "git_timeout_secs"]

def Metadata.set (key : String) (item : Item) (metadata : Metadata) : Except DecodeError Metadata :=
  match key with
  | "opcode_prefix" => (decodeText item).map fun s ↦ { metadata with opcodePrefix := s }
  | "format" => (decodeFormat item).map fun f ↦ { metadata with format := f }
  | "git_timeout_secs" => (decodeNatural item).map fun n ↦ { metadata with timeoutSeconds := n }
  | _ => .ok metadata

def set (key : String) (item : Item) (c : Configuration) : Except DecodeError Configuration :=
  match key with
  | "paths" => (decodePart Paths.keys Paths.set {} item).map fun paths ↦ { c with paths }
  | "api" =>
    (decodePart (Interface.NameField.all.map (·.label)) setName {} item).map
      fun names ↦ { c with names }
  | "metadata" => (decodePart Metadata.keys Metadata.set {} item).map fun metadata ↦ { c with metadata }
  | _ => .ok c

def ofToml (text : String) : Except DecodeError Configuration :=
  match Table.ofDocument? text with
  | none => .error .unfit
  | some t => decodePart [] set {} t.item

end ExportTable.Configuration
