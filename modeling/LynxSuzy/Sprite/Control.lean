import LynxSuzy.Brush

/-!
Contract: what a sprite's three control bytes say.

Owns: the bit layout of the control bytes and the vocabulary they select: the
kind of sprite, how many of the optional descriptor fields follow, and the
flags for drawing and colliding.

Does **not** own: reading the bytes from memory (`Sprite.Descriptor`).
-/

set_option autoImplicit false

namespace LynxSuzy.Sprite

/-- The eight kinds of sprite. -/
inductive Kind where
  | backgroundShadow
  | background
  | boundaryShadow
  | boundary
  | normal
  | nonCollidable
  | xorShadow
  | shadow
  deriving DecidableEq, Repr

namespace Kind

/-- The kind that the low three bits of a byte select. -/
def ofBits (bits : UInt8) : Kind :=
  match (bits &&& 0x07).toNat with
  | 0 => .backgroundShadow
  | 1 => .background
  | 2 => .boundaryShadow
  | 3 => .boundary
  | 4 => .normal
  | 5 => .nonCollidable
  | 6 => .xorShadow
  | _ => .shadow

/-- How pixels of the kind combine with the frame buffer. -/
def blend : Kind → Blend
  | .backgroundShadow | .background => .background
  | .boundary | .normal => .normal
  | .nonCollidable => .nonCollidable
  | .boundaryShadow | .xorShadow | .shadow => .shadow

def name : Kind → String
  | .backgroundShadow => "BackgroundShadow"
  | .background => "Background"
  | .boundaryShadow => "BoundaryShadow"
  | .boundary => "Boundary"
  | .normal => "Normal"
  | .nonCollidable => "NonCollidable"
  | .xorShadow => "XorShadow"
  | .shadow => "Shadow"

end Kind

/-- How many of the optional words a descriptor carries. Each choice includes
the words of the one before it. -/
inductive Reload where
  | nothing
  | size
  | sizeStretch
  | sizeStretchTilt
  deriving DecidableEq, Repr

namespace Reload

/-- The choice that bits 4 and 5 of a control byte select. -/
def ofBits (bits : UInt8) : Reload :=
  match ((bits &&& 0x30) >>> 4).toNat with
  | 0 => .nothing
  | 1 => .size
  | 2 => .sizeStretch
  | _ => .sizeStretchTilt

/-- Whether both size words follow. -/
def hasSize : Reload → Bool
  | .nothing => false
  | .size | .sizeStretch | .sizeStretchTilt => true

def hasStretch : Reload → Bool
  | .nothing | .size => false
  | .sizeStretch | .sizeStretchTilt => true

def hasTilt : Reload → Bool
  | .nothing | .size | .sizeStretch => false
  | .sizeStretchTilt => true

def name : Reload → String
  | .nothing => "None"
  | .size => "Size"
  | .sizeStretch => "SizeStretch"
  | .sizeStretchTilt => "SizeStretchTilt"

end Reload

/-- The decoded control bytes of a sprite. -/
structure Control where
  kind : Kind
  /-- Bits in a pixel, one to four. -/
  depth : Nat
  flipHorizontal : Bool
  flipVertical : Bool
  startLeft : Bool
  startUp : Bool
  /-- The sprite is passed over; only its link counts. -/
  skip : Bool
  /-- The descriptor carries a palette of its own. -/
  reloadPalette : Bool
  reload : Reload
  /-- Lines are plain indices instead of packets. -/
  literal : Bool
  collisionNumber : UInt8
  dontCollide : Bool
  deriving DecidableEq

/-- Decode the drawing bytes and the collision byte. -/
def Control.decode (control0 control1 collision : UInt8) : Control where
  kind := Kind.ofBits control0
  depth := (control0 >>> 6).toNat + 1
  flipHorizontal := Byte.flagged control0 0x20
  flipVertical := Byte.flagged control0 0x10
  startLeft := Byte.flagged control1 0x01
  startUp := Byte.flagged control1 0x02
  skip := Byte.flagged control1 0x04
  reloadPalette := !Byte.flagged control1 0x08
  reload := Reload.ofBits control1
  literal := Byte.flagged control1 0x80
  collisionNumber := Byte.nibble collision .low
  dontCollide := Byte.flagged collision 0x20

/-- Whether sprites with these control bytes take part in collisions when the
chip lets them. -/
def Control.collides (control : Control) : Bool :=
  !control.dontCollide && control.kind.blend.collides

end LynxSuzy.Sprite
