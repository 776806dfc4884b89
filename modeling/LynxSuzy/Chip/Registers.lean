import LynxSuzy.Arithmetic
import LynxSuzy.Collisions
import LynxSuzy.Sprite.Descriptor

/-!
Contract: everything the chip remembers from one access to the next.

Owns: the register file with the arithmetic unit, the collision buffer and the
sprite latches. This is what a save state holds of the chip.

Does **not** own: the addresses of the registers (`Chip.Address`) or what the
host has configured (`Chip`).
-/

set_option autoImplicit false

namespace LynxSuzy

structure Registers where
  /-- World column at the screen's left edge, as a signed word. -/
  horizontalOffset : UInt16
  /-- World line at the screen's top edge, as a signed word. -/
  verticalOffset : UInt16
  /-- Address of the frame buffer. -/
  videoBase : UInt16
  /-- Distance of a sprite's depository from its descriptor. -/
  collisionOffset : UInt16
  /-- Address of the descriptor that is read next. -/
  nextDescriptor : UInt16
  control0 : UInt8
  control1 : UInt8
  collisionControl : UInt8
  initialization : UInt8
  /-- The sprite engine may use the bus. -/
  busEnabled : Bool
  /-- A start has been requested. -/
  spriteGo : Bool
  /-- Sprites leave a note in their depository if they were never on screen. -/
  everOn : Bool
  /-- No sprite collides. -/
  noCollide : Bool
  /-- Stretch grows the height of lines too. -/
  verticalStretch : Bool
  leftHanded : Bool
  /-- The next run ends after one sprite. -/
  stopRequested : Bool
  /-- The sprite engine is running. -/
  working : Bool
  arithmetic : Arithmetic
  collisions : Collisions
  latches : Sprite.Latches
  joystick : UInt8
  switches : UInt8
  deriving DecidableEq

def Registers.initial : Registers where
  horizontalOffset := 0
  verticalOffset := 0
  videoBase := 0
  collisionOffset := 0
  nextDescriptor := 0
  control0 := 0
  control1 := 0
  collisionControl := 0
  initialization := 0
  busEnabled := false
  spriteGo := false
  everOn := false
  noCollide := false
  verticalStretch := false
  leftHanded := false
  stopRequested := false
  working := false
  arithmetic := Arithmetic.initial
  collisions := Collisions.empty
  latches := Sprite.Latches.initial
  joystick := 0
  switches := 0

end LynxSuzy
