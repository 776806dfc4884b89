import LynxSuzy.Cartridge

/-!
Contract: what the chip may ask of whatever is in the cartridge slot.

Owns: the three requests, and their answers from a slot that holds a cartridge
or nothing. An empty slot reads high and ignores the rest.
-/

set_option autoImplicit false

namespace LynxSuzy

/-- Something that can be read through the cartridge slot. -/
class CartridgeSocket (socket : Type) where
  withBank : socket → Nat → socket
  /-- Read a byte and go on to the next. -/
  readNext : socket → UInt8 × socket
  withCounterLow : socket → UInt8 → socket

abbrev Slot := Option Cartridge

namespace Slot

/-- Choose a bank of the cartridge, if there is one. -/
def withBank (slot : Slot) (number : Nat) : Slot :=
  slot.map (Cartridge.withBank · number)

def readNext : Slot → UInt8 × Slot
  | some cartridge =>
      let read := cartridge.readNext
      (read.1, some read.2)
  | none => (0xFF, none)

/-- Replace the low byte of the cartridge's counter, if there is one. -/
def withCounterLow (slot : Slot) (value : UInt8) : Slot :=
  slot.map (Cartridge.withCounterLow · value)

end Slot

instance : CartridgeSocket Slot where
  withBank := Slot.withBank
  readNext := Slot.readNext
  withCounterLow := Slot.withCounterLow

end LynxSuzy
