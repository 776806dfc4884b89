import LynxSuzy.Sprite.Control

/-!
Contract: the four quadrants around a sprite's origin.

Owns: the quadrants in drawing order, the direction each is drawn in along
either axis, and what flipping does to them.

A sprite's data describes up to four quadrants, and each is drawn outwards from
the origin:

    2 | 1
    ---+---
    3 | 0

Flipping leaves the order of the data alone and only turns the directions, so
the quadrant that is actually drawn is the described one with its axes flipped.
-/

set_option autoImplicit false

namespace LynxSuzy.Sprite

/-- A way along one axis: right and down are forward. -/
inductive Direction where
  | forward
  | backward
  deriving DecidableEq, Repr

namespace Direction

def sign : Direction → Int
  | .forward => 1
  | .backward => -1

def opposite : Direction → Direction
  | .forward => .backward
  | .backward => .forward

/-- Turned round if asked to. -/
def flippedIf (direction : Direction) (flip : Bool) : Direction :=
  if flip then direction.opposite else direction

/-- Whether a coordinate has left an axis of the given extent at the end that
the direction leads to. Nothing further along can be on the screen. -/
def isPast (direction : Direction) (extent : Nat) (coordinate : Int) : Bool :=
  match direction with
  | .forward => decide ((extent : Int) ≤ coordinate)
  | .backward => decide (coordinate < 0)

end Direction

/-- A quadrant, named for the way it is drawn when nothing is flipped. -/
inductive Quadrant where
  | downRight
  | upRight
  | upLeft
  | downLeft
  deriving DecidableEq, Repr

namespace Quadrant

def all : List Quadrant := [.downRight, .upRight, .upLeft, .downLeft]

/-- Quadrants are numbered anticlockwise. -/
def number : Quadrant → Nat
  | .downRight => 0
  | .upRight => 1
  | .upLeft => 2
  | .downLeft => 3

/-- The quadrant that is drawn after this one. -/
def next : Quadrant → Quadrant
  | .downRight => .upRight
  | .upRight => .upLeft
  | .upLeft => .downLeft
  | .downLeft => .downRight

/-- The way lines are drawn. -/
def horizontal : Quadrant → Direction
  | .downRight | .upRight => .forward
  | .upLeft | .downLeft => .backward

/-- The way lines follow each other. -/
def vertical : Quadrant → Direction
  | .downRight | .downLeft => .forward
  | .upRight | .upLeft => .backward

def ofDirections : Direction → Direction → Quadrant
  | .forward, .forward => .downRight
  | .forward, .backward => .upRight
  | .backward, .backward => .upLeft
  | .backward, .forward => .downLeft

/-- The quadrant that is actually drawn for this one under the flips of a
sprite. -/
def flipped (quadrant : Quadrant) (control : Control) : Quadrant :=
  ofDirections (quadrant.horizontal.flippedIf control.flipHorizontal)
    (quadrant.vertical.flippedIf control.flipVertical)

@[simp] theorem horizontal_ofDirections (across down : Direction) :
    (ofDirections across down).horizontal = across := by
  cases across <;> cases down <;> rfl

@[simp] theorem vertical_ofDirections (across down : Direction) :
    (ofDirections across down).vertical = down := by
  cases across <;> cases down <;> rfl

end Quadrant

/-- The quadrant that a sprite's data describes first. -/
def Control.startQuadrant (control : Control) : Quadrant :=
  Quadrant.ofDirections
    (if control.startLeft then .backward else .forward)
    (if control.startUp then .backward else .forward)

end LynxSuzy.Sprite
