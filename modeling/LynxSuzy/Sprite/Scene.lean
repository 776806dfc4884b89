import LynxSuzy.Screen
import LynxSuzy.Sprite.Descriptor
import LynxSuzy.Sprite.Quadrant

/-!
Contract: where a sprite stands relative to the screen.

Owns: the surroundings that all sprites of a run share, the coordinates a pass
starts from, and the check that tells whether a pass from an origin off the
screen can reach it at all.

Does **not** own: the pixels of a pass (`Sprite.Row`).
-/

set_option autoImplicit false

namespace LynxSuzy.Sprite

/-- What drawing one sprite takes from the chip. -/
structure Scene where
  /-- World column at the screen's left edge. -/
  left : Int
  /-- World line at the screen's top edge. -/
  top : Int
  videoBase : UInt16
  /-- Stretch grows the height of lines as well as their width. -/
  verticalStretch : Bool
  /-- The number to record, unless the sprite does not collide. -/
  collision : Option UInt8
  deriving DecidableEq

/-- Whether drawing in a direction from a position off the screen can reach an
axis that begins at `start`. The position is an unsigned word, so that one
before the world's edge counts as lying beyond the middle of the other side. -/
def Direction.reaches (direction : Direction) (start : Int) (extent : Nat)
    (position : UInt16) : Bool :=
  let place : Int := position.toNat
  let middle := start + 0x8000 + (extent / 2 : Nat)
  match direction with
  | .forward => decide (place < start + extent) || decide (middle < place)
  | .backward => decide (start ≤ place) && decide (place ≤ middle)

/-- How far from the origin a pass starts along one axis. The origin's own
column and line belong to the sprite's first pass; a pass that is drawn the
other way starts one step further on. -/
def Direction.seam (direction first : Direction) : Int :=
  if direction = first then 0 else direction.sign

namespace Scene

def shows (scene : Scene) (hpos vpos : UInt16) : Bool :=
  Screen.has (Word.signed hpos - scene.left) (Word.signed vpos - scene.top)

/-- Whether a quadrant drawn from an origin off the screen can reach it. -/
def reachedBy (scene : Scene) (heading : Quadrant) (hpos vpos : UInt16) : Bool :=
  heading.horizontal.reaches scene.left Screen.width hpos
    && heading.vertical.reaches scene.top Screen.height vpos

end Scene

end LynxSuzy.Sprite
