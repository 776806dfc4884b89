import LynxSuzy.Word

/-!
Contract: the visible screen and where its positions lie in memory.

Owns: the extent of the screen, the check for a position on it, and the address
and nibble that hold a position's pen in the packed frame buffer. Two positions
share a byte; the one on the even column has the high nibble.

Does **not** own: display (`Console`), which reads at the addresses defined here,
and painting (`Brush`), which finds its way there by a reckoning of its own.
-/

set_option autoImplicit false

namespace LynxSuzy.Screen

/-- Positions in a line. -/
def width : Nat := 160

/-- Lines on the screen. -/
def height : Nat := 102

/-- Bytes that one line takes in the frame buffer. -/
def bytesPerLine : Nat := 80

def hasColumn (x : Int) : Bool :=
  decide (0 ≤ x) && decide (x < width)

def hasLine (y : Int) : Bool :=
  decide (0 ≤ y) && decide (y < height)

def has (x y : Int) : Bool :=
  hasColumn x && hasLine y

/-- The address of the byte that holds a position, wrapping at the top of
memory. -/
def address (base : UInt16) (x y : Nat) : UInt16 :=
  base + UInt16.ofNat (y * bytesPerLine + x / 2)

def half (x : Nat) : Half :=
  if x % 2 = 0 then .high else .low

theorem hasColumn_iff {x : Int} : hasColumn x = true ↔ 0 ≤ x ∧ x < width := by
  simp [hasColumn]

theorem hasLine_iff {y : Int} : hasLine y = true ↔ 0 ≤ y ∧ y < height := by
  simp [hasLine]

theorem has_iff {x y : Int} :
    has x y = true ↔ (0 ≤ x ∧ x < width) ∧ (0 ≤ y ∧ y < height) := by
  simp [has, hasColumn_iff, hasLine_iff]

end LynxSuzy.Screen
