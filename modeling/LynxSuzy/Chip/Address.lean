import LynxSuzy.Arithmetic

/-!
Contract: which register answers at which offset of the chip's page.

Owns: the registers that can be reached over the bus and their offsets.
Sixteen-bit registers are reached a byte at a time, the low byte first. Offsets
that no register has are unmapped.
-/

set_option autoImplicit false

namespace LynxSuzy

/-- Sixteen-bit registers that only hold their value. -/
inductive WordRegister where
  | horizontalOffset
  | verticalOffset
  | videoBase
  | collisionOffset
  | nextDescriptor
  deriving DecidableEq, Repr

/-- Eight-bit registers that only hold their value. -/
inductive ByteRegister where
  | control0
  | control1
  | collisionControl
  | initialization
  deriving DecidableEq, Repr

inductive Register where
  /-- The collision slots from this one on, two to a byte. -/
  | depository (first : Nat)
  | word (register : WordRegister) (half : Half)
  | byte (register : ByteRegister)
  | operand (operand : Arithmetic.Operand)
  /-- The part of the arithmetic unit's window that has no operand. -/
  | reservedOperand
  | revision
  | busEnable
  | spriteGo
  | system
  | joystick
  | switches
  | cartridge (bank : Nat)
  | unmapped
  deriving DecidableEq, Repr

namespace Register

/-- The first of the two collision slots at an offset. The sixteen slots lie in
two runs of four bytes. -/
def depository? (offset : UInt8) : Option Nat :=
  if offset.toNat < 0x04 then some (offset.toNat * 2)
  else if 0x0C ≤ offset.toNat ∧ offset.toNat < 0x10 then some ((offset.toNat - 0x0C + 4) * 2)
  else none

/-- The registers outside the depository and the arithmetic unit. -/
def plainOfOffset (offset : UInt8) : Register :=
  match offset.toNat with
  | 0x04 => .word .horizontalOffset .low
  | 0x05 => .word .horizontalOffset .high
  | 0x06 => .word .verticalOffset .low
  | 0x07 => .word .verticalOffset .high
  | 0x08 => .word .videoBase .low
  | 0x09 => .word .videoBase .high
  | 0x0A => .word .collisionOffset .low
  | 0x0B => .word .collisionOffset .high
  | 0x10 => .word .nextDescriptor .low
  | 0x11 => .word .nextDescriptor .high
  | 0x80 => .byte .control0
  | 0x81 => .byte .control1
  | 0x82 => .byte .collisionControl
  | 0x83 => .byte .initialization
  | 0x88 => .revision
  | 0x90 => .busEnable
  | 0x91 => .spriteGo
  | 0x92 => .system
  | 0xB0 => .joystick
  | 0xB1 => .switches
  | 0xB2 => .cartridge 0
  | 0xB3 => .cartridge 1
  | _ => .unmapped

def ofOffset (offset : UInt8) : Register :=
  match depository? offset with
  | some first => .depository first
  | none =>
      if 0x60 ≤ offset.toNat ∧ offset.toNat ≤ 0x73 then
        match Arithmetic.Operand.ofOffset? offset with
        | some found => .operand found
        | none => .reservedOperand
      else plainOfOffset offset

end Register

end LynxSuzy
