/-!
Contract: a picture for the host.

Owns: the pixels in row-major order and the look-up by coordinates, which has no
answer outside the picture.
-/

set_option autoImplicit false

namespace LynxSuzy

/-- A picture of ARGB pixels, row after row. -/
structure Picture where
  width : UInt32
  height : UInt32
  pixels : Array UInt32
  deriving DecidableEq

namespace Picture

def blank (width height : UInt32) : Picture :=
  ⟨width, height, Array.replicate (width.toNat * height.toNat) 0⟩

/-- The picture whose pixel at each place is given by a function. -/
def ofFn (width height : Nat) (pixel : Nat → Nat → UInt32) : Picture :=
  ⟨UInt32.ofNat width, UInt32.ofNat height,
    Array.ofFn fun place : Fin (width * height) => pixel (place % width) (place / width)⟩

/-- The pixel at a place, unless the place is outside the picture. -/
def get? (picture : Picture) (x y : UInt32) : Option UInt32 :=
  if x < picture.width ∧ y < picture.height then
    picture.pixels[y.toNat * picture.width.toNat + x.toNat]?
  else none

/-- The picture with one pixel replaced, counted from the start. -/
def setPixel (picture : Picture) (place : Nat) (value : UInt32) : Picture :=
  { picture with pixels := picture.pixels.setIfInBounds place value }

end Picture

end LynxSuzy
