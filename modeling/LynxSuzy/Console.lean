import LynxSuzy.Board
import LynxSuzy.Picture

/-!
Contract: the console as its host drives it.

Owns: the memory map, loading of memory, the cartridge slot as a mount point,
the stall that the processor collects, and the display of the frame buffer.

The chip answers on one page of the address space; memory lies everywhere else
and also, out of reach, beneath that page.

Does **not** own: saved states (`Console.State`).
-/

set_option autoImplicit false

namespace LynxSuzy

structure Console where
  board : Board Slot
  /-- The colours of the sixteen pens on the display. -/
  palette : Vector UInt32 16

/-- A slot that the host can put media into. -/
structure MountPoint where
  id : String
  name : String
  /-- Endings of the names of files that fit. -/
  extensions : List String
  required : Bool
  deriving DecidableEq

/-- Why media cannot be mounted or unmounted. -/
inductive MountError where
  | cartridge (error : CartridgeError)
  | invalidMountPoint (id : String)
  deriving DecidableEq

def MountError.message : MountError → String
  | .cartridge error => "Cartridge error: " ++ error.message
  | .invalidMountPoint id => "Invalid mount point: " ++ id

namespace Console

/-- Opaque greys from black to white. -/
def greys : Vector UInt32 16 :=
  Vector.ofFn fun pen => (0xFF000000 : UInt32) ||| UInt32.ofNat (pen.val * 0x00111111)

/-- A console as it comes up, with an empty slot. -/
def powerOn (config : Config) : Console where
  board := ⟨Chip.powerOn config, Memory.filled 0, none, [], []⟩
  palette := greys

/-- The page that the chip answers on. -/
def chipPage : UInt8 := 0xFC

def reachesChip (address : UInt16) : Bool :=
  Word.byte address .high == chipPage

def withBoard (console : Console) (board : Board Slot) : Console :=
  { console with board := board }

def withChip (console : Console) (chip : Chip) : Console :=
  { console with board := { console.board with chip := chip } }

def withMemory (console : Console) (memory : Memory) : Console :=
  { console with board := { console.board with memory := memory } }

/-- Read a byte over the bus. -/
def read (console : Console) (address : UInt16) : UInt8 × Console :=
  match console with
  | ⟨board, palette⟩ =>
      if reachesChip address then
        let read := board.readRegister (Word.byte address .low)
        (read.1, ⟨read.2, palette⟩)
      else (board.memory.get address, ⟨board, palette⟩)

/-- Write a byte over the bus. -/
def write (console : Console) (address : UInt16) (value : UInt8) : Console :=
  match console with
  | ⟨board, palette⟩ =>
      if reachesChip address then ⟨board.writeRegister (Word.byte address .low) value, palette⟩
      else
        match board with
        | ⟨chip, memory, socket, charges, notices⟩ =>
            ⟨⟨chip, memory.set address value, socket, charges, notices⟩, palette⟩

/-- Replace consecutive bytes of memory, beneath the chip's page too. -/
def loadMemory (console : Console) (address : UInt16) (bytes : List UInt8) : Console :=
  match console with
  | ⟨⟨chip, memory, socket, charges, notices⟩, palette⟩ =>
      ⟨⟨chip, memory.load address bytes, socket, charges, notices⟩, palette⟩

/-- Collect what the processor owes since it was last collected. -/
def collectStall (console : Console) : Nat × Console :=
  let cycles := console.board.owed
  let board := { console.board with charges := [] }
  (cycles,
    console.withBoard (if cycles = 0 then board else board.note [.stallCharged cycles]))

/-- Back to power-on. Memory, the cartridge and the palette stay; what the
processor owes is dropped. -/
def reset (console : Console) : Console :=
  console.withBoard { console.board.reset with charges := [] }

/-! ## The cartridge slot -/

def slotId : String := "Cartridge"

def mountPoints : List MountPoint :=
  [⟨slotId, "Cartridge Slot", ["lnx", "lyx", "bin"], false⟩]

/-- Put a cartridge into the slot without a reset. -/
def insertCartridge (console : Console) (image : Array UInt8) : Except MountError Console :=
  match Cartridge.ofImage image with
  | .error error => .error (.cartridge error)
  | .ok cartridge =>
      .ok (console.withBoard
        ({ console.board with socket := some cartridge }.note
          [.cartridgeMounted (cartridge.pageSize 0)]))

/-- Put a cartridge into a slot and reset. -/
def mount (console : Console) (id : String) (image : Array UInt8) : Except MountError Console :=
  if id = slotId then (console.insertCartridge image).map reset
  else .error (.invalidMountPoint id)

def unmount (console : Console) (id : String) : Except MountError Console :=
  if id = slotId then .ok (console.withBoard { console.board with socket := none })
  else .error (.invalidMountPoint id)

/-- Whether there is something in a slot. -/
def isMounted (console : Console) (id : String) : Bool :=
  decide (id = slotId) && console.board.socket.isSome

def cartridge (console : Console) : Option Cartridge :=
  console.board.socket

def modifyCartridge (console : Console) (change : Cartridge → Cartridge) : Console :=
  console.withBoard { console.board with socket := console.board.socket.map change }

/-! ## Display -/

/-- The pen that a frame buffer holds for a position. -/
def penAt (memory : Memory) (base : UInt16) (x y : Nat) : UInt8 :=
  Byte.nibble (memory.get (Screen.address base x y)) (Screen.half x)

def colour (palette : Vector UInt32 16) (pen : UInt8) : UInt32 :=
  entryAt palette pen.toNat

/-- The frame buffer as a picture in the given colours. -/
def pictureIn (console : Console) (palette : Vector UInt32 16) : Picture :=
  Picture.ofFn Screen.width Screen.height fun x y =>
    colour palette (penAt console.board.memory console.board.chip.registers.videoBase x y)

/-- The picture in the console's own colours. -/
def picture (console : Console) : Picture :=
  console.pictureIn console.palette

def withPalette (console : Console) (palette : Vector UInt32 16) : Console :=
  { console with palette := palette }

end Console

end LynxSuzy
