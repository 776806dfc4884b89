/-!
Contract: the parts of a machine word and its reading as a signed number.

Owns: the two halves of a 16-bit word and of a byte, replacing one of them, the
two's complement reading of a word, and single bits of a byte.

Does **not** own: which half of which register a bus access reaches; that is
decided where registers are named.
-/

set_option autoImplicit false

namespace LynxSuzy

/-- One of the two equal parts of a word: a byte of a 16-bit word, or a nibble
of a byte. -/
inductive Half where
  | low
  | high
  deriving DecidableEq, Repr

namespace Word

/-- The word whose low byte comes first. -/
def ofBytes (low high : UInt8) : UInt16 :=
  high.toUInt16 <<< 8 ||| low.toUInt16

def byte (word : UInt16) : Half → UInt8
  | .low => word.toUInt8
  | .high => (word >>> 8).toUInt8

def withByte (word : UInt16) (value : UInt8) : Half → UInt16
  | .low => word &&& (0xFF00 : UInt16) ||| value.toUInt16
  | .high => word &&& (0x00FF : UInt16) ||| value.toUInt16 <<< 8

/-- Without its low byte a word is its high byte, moved back to where it was. -/
theorem and_high (word : UInt16) : word &&& (0xFF00 : UInt16) = (word >>> 8) <<< 8 := by
  have mask : ∀ bit : Fin 16, (0xFF00#16)[bit.val] = decide (8 ≤ bit.val) := by decide
  apply UInt16.toBitVec_inj.1
  ext bit bound
  have picked := mask ⟨bit, bound⟩
  by_cases low : bit < 8
  · have outside : ¬8 ≤ bit := Nat.not_le.2 low
    simp [picked, low, outside]
  · have inside : 8 ≤ bit := Nat.not_lt.1 low
    simp [picked, low, inside, BitVec.getLsbD_eq_getElem bound]

theorem toNat_withByte_low (word : UInt16) (value : UInt8) :
    (withByte word value .low).toNat = value.toNat + 256 * (word.toNat / 256) := by
  have shift : (8 : UInt16).toNat % 16 = 8 := by decide
  have bound := word.toNat_lt
  have small := value.toNat_lt
  rw [withByte, and_high, UInt16.toNat_or, UInt16.toNat_shiftLeft, UInt16.toNat_shiftRight, shift,
    UInt8.toNat_toUInt16, Nat.shiftRight_eq_div_pow, Nat.shiftLeft_eq,
    Nat.mod_eq_of_lt (by omega), ← Nat.shiftLeft_eq, ← Nat.shiftLeft_add_eq_or_of_lt small,
    Nat.shiftLeft_eq]
  omega

/-- The two's complement reading of a word. -/
def signed (word : UInt16) : Int :=
  if word.toNat < 0x8000 then word.toNat else word.toNat - 0x10000

theorem signed_lower (word : UInt16) : -0x8000 ≤ signed word := by
  unfold signed
  split <;> omega

theorem signed_upper (word : UInt16) : signed word < 0x8000 := by
  have bounded := word.toNat_lt
  unfold signed
  split <;> omega

end Word

namespace Byte

def nibble (byte : UInt8) : Half → UInt8
  | .low => byte &&& 0x0F
  | .high => byte >>> 4

def withNibble (byte value : UInt8) : Half → UInt8
  | .low => byte &&& (0xF0 : UInt8) ||| value
  | .high => byte &&& (0x0F : UInt8) ||| value <<< 4

/-- Whether any bit of a mask is set in a byte. -/
def flagged (byte mask : UInt8) : Bool :=
  byte &&& mask != 0

/-- A bit that is set only if asked for. -/
def bitIf (condition : Bool) (bit : UInt8) : UInt8 :=
  if condition then bit else 0

end Byte

end LynxSuzy
