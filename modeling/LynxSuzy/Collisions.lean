import LynxSuzy.Word

/-!
Contract: the collision buffer that sprites share.

Owns: sixteen slots, one for each collision number, and the flag that says some
sprite has met another; it is sticky, for only the processor clears it. Each slot keeps the greatest number that its
sprite has met; a meeting is recorded on both sides.

Does **not** own: when a meeting takes place; a pixel that is drawn over
another decides that (`Brush`).
-/

set_option autoImplicit false

namespace LynxSuzy

/-- The entry of a table of sixteen at a number, which is taken modulo sixteen. -/
def entryAt {Entry : Type} (table : Vector Entry 16) (number : Nat) : Entry :=
  table[Fin.ofNat 16 number]

/-- The collision slots and the sticky sprite-to-sprite flag. -/
structure Collisions where
  /-- The greatest number met, by collision number. -/
  slots : Vector UInt8 16
  /-- Some recorded meeting has raised a slot. -/
  sticky : Bool
  deriving DecidableEq

namespace Collisions

def empty : Collisions := ⟨Vector.replicate 16 0, false⟩

/-- The slot at a number, which is taken modulo sixteen. -/
def get (buffer : Collisions) (number : Nat) : UInt8 :=
  entryAt buffer.slots number

/-- The buffer with one slot replaced; its number is taken modulo sixteen. -/
def set (buffer : Collisions) (number : Nat) (value : UInt8) : Collisions :=
  { buffer with slots := buffer.slots.set (Fin.ofNat 16 number) value }

/-- Two adjacent slots as one byte, the first in the low nibble. -/
def pair (buffer : Collisions) (first : Nat) : UInt8 :=
  (buffer.get first &&& (0x0F : UInt8)) ||| (buffer.get (first + 1) &&& (0x0F : UInt8)) <<< 4

/-- Fill two adjacent slots from one byte. -/
def withPair (buffer : Collisions) (first : Nat) (value : UInt8) : Collisions :=
  (buffer.set first (Byte.nibble value .low)).set (first + 1) (Byte.nibble value .high)

/-- Forget that sprites have met; the slots stay. -/
def withoutSticky (buffer : Collisions) : Collisions :=
  { buffer with sticky := false }

/-- Raise one slot to a value. A slot that holds as much already stays, and
only a slot that rises sets the sticky flag. -/
def raise (buffer : Collisions) (number value : UInt8) : Collisions :=
  if buffer.get number.toNat < value then
    { buffer.set number.toNat value with sticky := true }
  else buffer

/-- Record that the sprite with a number was drawn over a pixel of `existing`.
Only the low nibbles count. Number zero never meets anything, and nothing is
met where the screen holds zero. -/
def meet (buffer : Collisions) (number existing : UInt8) : Collisions :=
  let number := Byte.nibble number .low
  let existing := Byte.nibble existing .low
  if number = 0 then buffer
  else if existing = 0 then buffer
  else (buffer.raise number existing).raise existing number

end Collisions

end LynxSuzy
