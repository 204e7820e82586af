import ExportTable.Interface.Names
import ExportTable.Signature

/-!
# Interfaces

An interface is what a provider exports: the functions in their slots, the names that a header for
them uses, and a text that documents it. `Edit` is a change to an interface; the number of a new
function is the number of functions before it.
-/

namespace ExportTable

structure Interface where
  names : Interface.Names
  slots : List Slot := []
  doc : Option String := none
  deriving DecidableEq, Repr

namespace Interface

def size (interface : Interface) : Nat := interface.slots.length

def functionNames (interface : Interface) : List String := interface.slots.map Slot.name

inductive Edit where
  /-- Replaces all functions. -/
  | setSignatures (signatures : List Signature)
  | append (signature : Signature)
  | setDoc (doc : String)
  | setNames (names : Names)
  /-- Writes the index of the function at a position. -/
  | setIndex (position index : Nat)
  /-- Takes a function away; the other functions keep their indices. -/
  | removeAt (position : Nat)
  deriving DecidableEq, Repr

def edit (interface : Interface) : Edit → Interface
  | .setSignatures signatures => { interface with slots := Slot.assign signatures }
  | .append signature =>
    { interface with slots := interface.slots ++ [⟨interface.size, signature⟩] }
  | .setDoc doc => { interface with doc := some doc }
  | .setNames names => { interface with names }
  | .setIndex position index =>
    { interface with slots := interface.slots.modify position fun slot ↦ { slot with index } }
  | .removeAt position => { interface with slots := interface.slots.eraseIdx position }

def editAll (interface : Interface) (edits : List Edit) : Interface := edits.foldl edit interface

end Interface

end ExportTable
