import LynxSuzy.Collisions
import LynxSuzy.Memory.Metered
import LynxSuzy.Screen

/-!
Contract: painting one pixel into the packed frame buffer.

Owns: how a pen combines with what the screen holds, the byte and the nibble
that a paint goes to, what a single paint costs in memory accesses, and the
collision it records. A paint that is clipped or
transparent touches nothing; one that is blocked has read a byte; one that is
drawn has read and written it.

Does **not** own: which pixels a sprite paints; no decision about that looks at
an outcome (`Sprite.Pass`).
-/

set_option autoImplicit false

namespace LynxSuzy

/-- How a sprite's pixels combine with what is in the frame buffer already. -/
inductive Blend where
  | normal
  /-- Fills only what is zero; never collides. -/
  | background
  | nonCollidable
  /-- Flips the bits of what is there. -/
  | shadow
  deriving DecidableEq, Repr

namespace Blend

/-- Whether pixels that combine so take part in collisions. -/
def collides : Blend → Bool
  | .normal | .shadow => true
  | .background | .nonCollidable => false

/-- The nibble that results from a pen over an existing nibble, if anything is
drawn there at all. -/
def combine (blend : Blend) (existing pen : UInt8) : Option UInt8 :=
  match blend with
  | .normal | .nonCollidable => some pen
  | .background => if existing = 0 then some pen else none
  | .shadow => some (existing ^^^ pen)

def name : Blend → String
  | .normal => "Normal"
  | .background => "Background"
  | .nonCollidable => "NonCollidable"
  | .shadow => "Shadow"

end Blend

/-- What came of painting one pixel. -/
inductive PlotResult where
  /-- The position is not on the screen. -/
  | clipped
  /-- The pen is zero. -/
  | transparent
  /-- What is there is not drawn over. -/
  | blocked
  | drawn
  deriving DecidableEq, Repr

def PlotResult.name : PlotResult → String
  | .clipped => "Clipped"
  | .transparent => "Transparent"
  | .blocked => "Blocked"
  | .drawn => "Drawn"

/-- What painting changes: the memory that holds the frame buffer, and the
collision buffer. -/
structure Canvas where
  memory : Metered
  collisions : Collisions

/-- What stays fixed while one sprite paints. -/
structure Brush where
  /-- Address of the frame buffer. -/
  videoBase : UInt16
  blend : Blend
  /-- The sprite's collision number, unless it does not collide. -/
  collision : Option UInt8
  deriving DecidableEq

namespace Brush

/-- The collision buffer after a pixel has been drawn over `existing`. -/
def collide (brush : Brush) (collisions : Collisions) (existing : UInt8) :
    Collisions :=
  match brush.collision with
  | some number =>
      if brush.blend.collides then collisions.meet number existing else collisions
  | none => collisions

/-- The address of the byte that the brush paints for a position: first to the
line and then along it, each step in the width of an address. -/
def address (brush : Brush) (x y : Nat) : UInt16 :=
  brush.videoBase + UInt16.ofNat y * UInt16.ofNat Screen.bytesPerLine + UInt16.ofNat x / 2

/-- The nibble that the brush paints for a column. -/
def half (x : Nat) : Half :=
  if x &&& 1 = 0 then .high else .low

/-- **The brush goes to the byte that the display reads.** -/
theorem address_eq (brush : Brush) {x : Nat} (y : Nat) (narrow : x < UInt16.size) :
    brush.address x y = Screen.address brush.videoBase x y := by
  have along : UInt16.ofNat x / 2 = UInt16.ofNat (x / 2) :=
    (UInt16.ofNat_div narrow (by decide)).symm
  rw [address, Screen.address, UInt16.ofNat_add, UInt16.ofNat_mul, along, UInt16.add_assoc]

/-- The brush takes the nibble that the display takes. -/
theorem half_eq (x : Nat) : half x = Screen.half x := by
  rw [half, Screen.half, Nat.and_one_is_mod]

/-- Paint a position known to be on the screen with a pen known to be visible. -/
def ink (brush : Brush) (canvas : Canvas) (x y : Nat) (pen : UInt8) :
    PlotResult × Canvas :=
  let address := brush.address x y
  let half := half x
  let found := canvas.memory.read address
  let existing := Byte.nibble found.1 half
  match brush.blend.combine existing pen with
  | none => (.blocked, ⟨found.2, canvas.collisions⟩)
  | some value =>
      (.drawn,
        ⟨found.2.write address (Byte.withNibble found.1 value half),
          brush.collide canvas.collisions existing⟩)

/-- Paint one pixel. Only the low nibble of the pen counts, and zero is
transparent. -/
def plot (brush : Brush) (canvas : Canvas) (x y : Int) (pen : UInt8) :
    PlotResult × Canvas :=
  if Screen.has x y then
    if Byte.nibble pen .low = 0 then (.transparent, canvas)
    else brush.ink canvas x.toNat y.toNat (Byte.nibble pen .low)
  else (.clipped, canvas)

end Brush

end LynxSuzy
