import LynxSuzy.Chip.Address
import LynxSuzy.Chip.Registers

/-!
Contract: reading and writing registers that have no effect beyond the chip.

Owns: the word and byte registers, the system register, the bus and start
registers as far as they are read, and the joystick with its hand.

Does **not** own: registers that start a run, touch the cartridge or leave a
notice (`Board`).
-/

set_option autoImplicit false

namespace LynxSuzy.Registers

def word (registers : Registers) : WordRegister → UInt16
  | .horizontalOffset => registers.horizontalOffset
  | .verticalOffset => registers.verticalOffset
  | .videoBase => registers.videoBase
  | .collisionOffset => registers.collisionOffset
  | .nextDescriptor => registers.nextDescriptor

/-- The registers with a sixteen-bit register replaced. -/
def withWord (registers : Registers) (value : UInt16) : WordRegister → Registers
  | .horizontalOffset => { registers with horizontalOffset := value }
  | .verticalOffset => { registers with verticalOffset := value }
  | .videoBase => { registers with videoBase := value }
  | .collisionOffset => { registers with collisionOffset := value }
  | .nextDescriptor => { registers with nextDescriptor := value }

def byte (registers : Registers) : ByteRegister → UInt8
  | .control0 => registers.control0
  | .control1 => registers.control1
  | .collisionControl => registers.collisionControl
  | .initialization => registers.initialization

/-- The registers with an eight-bit register replaced. -/
def withByte (registers : Registers) (value : UInt8) : ByteRegister → Registers
  | .control0 => { registers with control0 := value }
  | .control1 => { registers with control1 := value }
  | .collisionControl => { registers with collisionControl := value }
  | .initialization => { registers with initialization := value }

/-- The system register as it reads. Arithmetic takes no time, so its busy bit
is never set. -/
def systemStatus (registers : Registers) : UInt8 :=
  Byte.bitIf registers.arithmetic.overflow 0x40 ||| Byte.bitIf registers.arithmetic.carry 0x20
    ||| Byte.bitIf registers.verticalStretch 0x10 ||| Byte.bitIf registers.leftHanded 0x08
    ||| Byte.bitIf registers.collisions.sticky 0x04
    ||| Byte.bitIf registers.stopRequested 0x02 ||| Byte.bitIf registers.working 0x01

/-- Write the system register. It has other meanings than when it is read. -/
def withSystem (registers : Registers) (value : UInt8) : Registers :=
  { registers with
    arithmetic := { registers.arithmetic with
      signed := Byte.flagged value 0x80
      accumulate := Byte.flagged value 0x40 }
    noCollide := Byte.flagged value 0x20
    verticalStretch := Byte.flagged value 0x10
    leftHanded := Byte.flagged value 0x08
    stopRequested := Byte.flagged value 0x02
    collisions :=
      if Byte.flagged value 0x04 then registers.collisions.withoutSticky
      else registers.collisions }

def goStatus (registers : Registers) : UInt8 :=
  Byte.bitIf registers.everOn 0x04 ||| Byte.bitIf registers.spriteGo 0x01

/-- The buttons as the game sees them. A left-handed player holds the console
as the buttons are named; otherwise it is turned round, and so are the
directions. -/
def buttons (registers : Registers) : UInt8 :=
  let held := registers.joystick
  if registers.leftHanded then held
  else
    Byte.nibble held .low ||| Byte.bitIf (Byte.flagged held 0x80) 0x40
      ||| Byte.bitIf (Byte.flagged held 0x40) 0x80 ||| Byte.bitIf (Byte.flagged held 0x20) 0x10
      ||| Byte.bitIf (Byte.flagged held 0x10) 0x20

end LynxSuzy.Registers
