import LynxSuzy.Console
import LynxSuzy.Json.Codec

/-!
Contract: saved states.

Owns: the document that a console is saved to, and restoring a console from a
document. Restoring changes the console step by step and can fail on its way;
the parts of a document are checked in a fixed order, and the chip puts its own
part into place before the rest of the console follows.

A saved state holds memory and the chip's registers. Cartridge, palette and
configuration are not part of it and stay as they are when one is restored.
-/

set_option autoImplicit false

namespace LynxSuzy

/-- A part that a saved state must have. -/
inductive Section where
  | ram
  | chip
  | chipState
  deriving DecidableEq, Repr

def Section.name : Section → String
  | .ram => "ram"
  | .chip => "suzy"
  | .chipState => "state"

/-- Why a document is refused. -/
inductive RestoreError where
  | unsupportedVersion (version : Nat)
  | wrongSystem (system : String)
  | missing (part : Section)
  | invalidRamSize (size : Nat)
  /-- A part is there but cannot be read. -/
  | malformed
  deriving DecidableEq, Repr

/-- The error in words. What is wrong with a malformed part is not told. -/
def RestoreError.message : RestoreError → String
  | .unsupportedVersion version => "Unsupported save state version: " ++ toString version
  | .wrongSystem system => "Save state belongs to '" ++ system ++ "'"
  | .missing part => "Save state has no '" ++ part.name ++ "' section"
  | .invalidRamSize size => "RAM image must be 65536 bytes, got " ++ toString size
  | .malformed => "Malformed save state"

/-- A change of a state that can fail on its way. What has been changed by then
stays changed. -/
abbrev InPlace (Fault State : Type) : Type → Type :=
  ExceptT Fault (StateM State)

/-- The state that a change leads to, if it does not fail. -/
def InPlace.outcome {Fault State : Type} (change : InPlace Fault State Unit) (state : State) :
    Except Fault State :=
  match change.run.run state with
  | (.ok _, changed) => .ok changed
  | (.error fault, _) => .error fault

namespace Json

/-- The version that a document gives; zero where it gives none. Versions are
64-bit numbers. -/
def version (document : Json) : Nat :=
  ((document.get? "version").bind (natBelow? UInt64.size)).getD 0

/-- The text that a document gives under a name; empty where it gives none. -/
def label (document : Json) (name : String) : String :=
  ((document.get? name).bind string?).getD ""

def part (document : Json) (which : Section) : Except RestoreError Json :=
  match document.get? which.name with
  | some found => .ok found
  | none => .error (.missing which)

/-- The heading that a document must have: the one supported version, and the
label of what it belongs to. -/
def checkHeading (document : Json) (label expected : String) : Except RestoreError Unit := do
  if document.version ≠ 1 then throw (.unsupportedVersion document.version)
  if document.label label ≠ expected then throw (.wrongSystem (document.label label))

def readable {α : Type} (answer : Option α) : Except RestoreError α :=
  match answer with
  | some value => .ok value
  | none => .error .malformed

end Json

namespace Chip

def save (chip : Chip) : Json :=
  .object
    [("version", .integer 1), ("chip", .string "suzy"), ("state", chip.registers.toJson)]

def savedRegisters (document : Json) : Except RestoreError Registers := do
  document.checkHeading "chip" "suzy"
  Json.readable (Registers.ofJson? (← document.part .chipState))

/-- Put the chip into a saved state. There has been no run since then. -/
def restoreInPlace (document : Json) : InPlace RestoreError Chip Unit := do
  let registers ← savedRegisters document
  modify fun chip => ⟨registers, chip.config, none⟩

end Chip

namespace Memory

def toJson (memory : Memory) : Json :=
  Json.ofBytes memory.toList

def restore (document : Json) : Except RestoreError Memory := do
  let bytes ← Json.readable document.bytes?
  match Memory.ofArray? bytes with
  | some memory => return memory
  | none => throw (.invalidRamSize bytes.size)

end Memory

namespace Console

/-- Whether hosts may ask for saved states. -/
def supportsSaveStates : Bool := true

def save (console : Console) : Json :=
  .object
    [("version", .integer 1), ("system", .string "lynx"),
      ("ram", console.board.memory.toJson), ("suzy", console.board.chip.save)]

/-- The console when what the processor owes has been dropped. -/
def withoutCharges (console : Console) : Console :=
  console.withBoard { console.board with charges := [] }

/-- A change of the chip as one of the console. -/
def onChip (change : InPlace RestoreError Chip Unit) : InPlace RestoreError Console Unit :=
  fun console =>
    match change console.board.chip with
    | (result, chip) => (result, console.withChip chip)

/-- Put the console into a saved state. What the processor owes is dropped. -/
def restoreInPlace (document : Json) : InPlace RestoreError Console Unit := do
  document.checkHeading "system" "lynx"
  let memory ← Memory.restore (← document.part .ram)
  onChip (Chip.restoreInPlace (← document.part .chip))
  modify (withMemory · memory)
  modify withoutCharges

def restore (console : Console) (document : Json) : Except RestoreError Console :=
  InPlace.outcome (restoreInPlace document) console

/-- Put only the chip into a saved state. -/
def restoreChip (console : Console) (document : Json) : Except RestoreError Console :=
  InPlace.outcome (onChip (Chip.restoreInPlace document)) console

/-- A document's fault as a host that only knows documents sees it: the part
cannot be read, or there is something to say about it. -/
structure DocumentFault where
  reason : Option String
  deriving DecidableEq

def DocumentFault.ofError : RestoreError → DocumentFault
  | .malformed => ⟨none⟩
  | error => ⟨some error.message⟩

/-- Put the console into a saved state for a host that only knows documents. -/
def loadInPlace (document : Json) : InPlace DocumentFault Console Unit :=
  ExceptT.adapt DocumentFault.ofError (restoreInPlace document)

def load (console : Console) (document : Json) : Except DocumentFault Console :=
  InPlace.outcome (loadInPlace document) console

end Console

end LynxSuzy
