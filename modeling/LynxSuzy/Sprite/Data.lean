import LynxSuzy.Memory.Metered

/-!
Contract: walking through a sprite's data.

Owns: the cursor into the data, the headers that stand before each line, the
budget of bytes a sprite may consume, and passing over a quadrant without
drawing it.

A header of zero ends the sprite and one ends the quadrant; any other header is
the length of a line, itself included. A pointer into memory that never yields
an end would go round forever, so a sprite is given up after 65536 bytes.

Does **not** own: the loop that draws while it walks (`Sprite.Pass`).
-/

set_option autoImplicit false

namespace LynxSuzy.Sprite

/-- A place in a sprite's data. -/
structure Cursor where
  address : UInt16
  /-- Bytes of data behind the cursor. -/
  consumed : Nat
  deriving DecidableEq

namespace Cursor

/-- Bytes of data that one sprite may consume. -/
def limit : Nat := 65536

def start (address : UInt16) : Cursor := ⟨address, 0⟩

/-- The place some bytes further on; the address wraps. -/
def advance (cursor : Cursor) (count : Nat) : Cursor :=
  ⟨cursor.address + UInt16.ofNat count, cursor.consumed + count⟩

@[simp] theorem consumed_advance (cursor : Cursor) (count : Nat) :
    (cursor.advance count).consumed = cursor.consumed + count := rfl

end Cursor

/-- What stands before a line. -/
inductive Header where
  | endOfSprite
  | endOfQuadrant
  /-- A line with this many bytes after its header. -/
  | line (count : Nat)
  deriving DecidableEq, Repr

def Header.ofByte (byte : UInt8) : Header :=
  match byte.toNat with
  | 0 => .endOfSprite
  | 1 => .endOfQuadrant
  | length + 2 => .line (length + 1)

/-- How the data of one quadrant ended. -/
inductive Ending where
  /-- Another quadrant may follow. -/
  | quadrant
  /-- Nothing follows. -/
  | sprite
  /-- The budget ran out first, so nothing follows either. -/
  | overrun
  deriving DecidableEq, Repr

/-- Where passing over a quadrant came to a stop. -/
structure Skipped where
  memory : Metered
  cursor : Cursor
  /-- Headers read, the end marker included. -/
  headers : Nat
  ending : Ending

/-- Pass over the rest of a quadrant, reading nothing but its headers. Only an
end of quadrant is consumed: nothing is read after the other ends. -/
def skipLines (memory : Metered) (cursor : Cursor) (headers : Nat) : Skipped :=
  if cursor.consumed < Cursor.limit then
    let head := memory.read cursor.address
    match Header.ofByte head.1 with
    | .endOfSprite => ⟨head.2, cursor, headers + 1, .sprite⟩
    | .endOfQuadrant => ⟨head.2, cursor.advance 1, headers + 1, .quadrant⟩
    | .line count => skipLines head.2 (cursor.advance (count + 1)) (headers + 1)
  else ⟨memory, cursor, headers, .overrun⟩
termination_by Cursor.limit - cursor.consumed
decreasing_by
  simp only [Cursor.consumed_advance]
  omega

end LynxSuzy.Sprite
