/-!
Contract: reading a line's bytes as a string of bits, most significant first.

Owns: the reader, which draws bytes into a 32-bit window as bits are asked for.
A request for more bits than are left takes nothing and answers zero, so a
later and smaller request goes on where the last successful one ended.

The reader counts bits in 32 bits, which is enough for fewer than 2 ^ 29 bytes. Of
a longer string it reads as many bits from the front as it has counted.

Does **not** own: what the bits mean (`Line.Decoder`).
-/

set_option autoImplicit false

namespace LynxSuzy.Line

/-- A position in a string of bits. -/
structure Bits where
  /-- Bytes that have not entered the window. -/
  rest : List UInt8
  /-- The bits that have entered and are not yet taken, as a number. -/
  window : UInt32
  /-- How many bits the window holds. -/
  held : Nat
  /-- Bits that have been counted and are not yet taken. -/
  left : Nat
  deriving DecidableEq

namespace Bits

/-- The bits in so many bytes, as a reader counts them. The number of bytes is taken
as a 32-bit number, and so wraps; eight times that stops at the largest one. -/
def countBits (bytes : Nat) : Nat :=
  min (bytes % UInt32.size * 8) (UInt32.size - 1)

theorem countBits_le (bytes : Nat) : countBits bytes ≤ 8 * bytes := by
  have wrapped : bytes % UInt32.size ≤ bytes := Nat.mod_le _ _
  unfold countBits
  omega

def ofBytes (bytes : List UInt8) : Bits :=
  ⟨bytes, 0, 0, countBits bytes.length⟩

/-- Draw bytes into the window until it holds as many bits as are wanted. The
window keeps the last 32 of them. -/
def refill (wanted : Nat) : List UInt8 → UInt32 → Nat → List UInt8 × UInt32 × Nat
  | [], window, held => ([], window, held)
  | byte :: rest, window, held =>
      if held < wanted then
        refill wanted rest (window <<< 8 ||| byte.toUInt32) (held + 8)
      else (byte :: rest, window, held)

/-- Take up to 31 bits. The answer is the low byte of the number they form. -/
def take (bits : Bits) (wanted : Nat) : UInt8 × Bits :=
  if wanted = 0 ∨ bits.left < wanted then (0, bits)
  else
    let filled := refill wanted bits.rest bits.window bits.held
    let keep := filled.2.2 - wanted
    let value := filled.2.1 >>> UInt32.ofNat keep &&& ((1 : UInt32) <<< UInt32.ofNat wanted - 1)
    (value.toUInt8,
      ⟨filled.1, filled.2.1 &&& ((1 : UInt32) <<< UInt32.ofNat keep - 1), keep,
        bits.left - wanted⟩)

theorem take_left_le (bits : Bits) (wanted : Nat) :
    (bits.take wanted).2.left ≤ bits.left := by
  unfold take
  split
  · exact Nat.le_refl _
  · exact Nat.sub_le _ _

/-- **A request that is met takes exactly what it asked for.** -/
theorem take_left (bits : Bits) {wanted : Nat} (enough : wanted ≤ bits.left) :
    (bits.take wanted).2.left = bits.left - wanted := by
  unfold take
  split
  · rename_i refused
    rcases refused with none | short
    · simp [none]
    · omega
  · rfl

/-- A request for nothing, or for more bits than are left, changes nothing. -/
theorem take_of_refused (bits : Bits) {wanted : Nat} (refused : wanted = 0 ∨ bits.left < wanted) :
    bits.take wanted = (0, bits) :=
  if_pos refused

/-- A request that is not met changes nothing. -/
theorem take_of_short (bits : Bits) {wanted : Nat} (short : bits.left < wanted) :
    bits.take wanted = (0, bits) :=
  bits.take_of_refused (.inr short)

end Bits

end LynxSuzy.Line
