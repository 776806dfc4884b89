import LynxSuzy.Word

/-!
Contract: the multiply and divide unit.

Owns: the operand registers, both operations and the byte-wise writes that load
operands and start them.

Operands live in two pairs and a divisor of sixteen bits (`AB`, `CD`, `NP`) and
in two words of thirty-two (`EFGH`, `JKLM`). Writing the lower byte of a pair
clears the byte above it. Writing the top byte of `AB` multiplies and writing
the top byte of `EFGH` divides.

In signed mode operands are split into sign and magnitude. A number counts as
negative when one less than it has its top bit set, so zero is negative and the
number with only its top bit set is positive.
-/

set_option autoImplicit false

namespace LynxSuzy

/-- The registers of the unit and the flags of its last operation. -/
structure Arithmetic where
  ab : UInt16
  cd : UInt16
  np : UInt16
  efgh : UInt32
  jklm : UInt32
  signed : Bool
  /-- Products are added to `jklm`. -/
  accumulate : Bool
  overflow : Bool
  carry : Bool
  deriving DecidableEq

structure SignMagnitude where
  negative : Bool
  magnitude : UInt32
  deriving DecidableEq

namespace SignMagnitude

/-- Split a 16-bit operand. -/
def ofWord (word : UInt16) : SignMagnitude :=
  if (word - 1) &&& (0x8000 : UInt16) ≠ 0 then ⟨true, (0 - word).toUInt32⟩
  else ⟨false, word.toUInt32⟩

/-- Split a 32-bit operand. -/
def ofLong (long : UInt32) : SignMagnitude :=
  if (long - 1) &&& (0x80000000 : UInt32) ≠ 0 then ⟨true, 0 - long⟩ else ⟨false, long⟩

/-- A magnitude with the sign that two operands of these signs give. -/
def applySigns (first second : SignMagnitude) (magnitude : UInt32) : UInt32 :=
  if first.negative = second.negative then magnitude else 0 - magnitude

end SignMagnitude

namespace Arithmetic

def initial : Arithmetic := ⟨0, 0, 0, 0, 0, false, false, false, false⟩

/-- The product of two operands in the given mode. -/
def product (signed : Bool) (first second : UInt16) : UInt32 :=
  if signed then
    let first := SignMagnitude.ofWord first
    let second := SignMagnitude.ofWord second
    first.applySigns second (first.magnitude * second.magnitude)
  else first.toUInt32 * second.toUInt32

/-- `AB` times `CD` into `EFGH`, added to `JKLM` in accumulate mode. Both flags
say whether that addition overflowed; earlier flags are forgotten. -/
def multiply (unit : Arithmetic) : Arithmetic :=
  let result := product unit.signed unit.ab unit.cd
  if unit.accumulate then
    let overflowed := decide (UInt32.size ≤ unit.jklm.toNat + result.toNat)
    { unit with
      efgh := result
      jklm := unit.jklm + result
      overflow := overflowed
      carry := overflowed }
  else { unit with efgh := result, overflow := false, carry := false }

/-- Quotient and remainder of a dividend by a divisor other than zero. The
remainder is that of the magnitudes and never negated. No such divisor has a
magnitude of zero, but the unit divides by one at least. -/
def division (signed : Bool) (dividend : UInt32) (divisor : UInt16) : UInt32 × UInt32 :=
  if signed then
    let dividend := SignMagnitude.ofLong dividend
    let divisor := SignMagnitude.ofWord divisor
    let parts := max divisor.magnitude 1
    (dividend.applySigns divisor (dividend.magnitude / parts), dividend.magnitude % parts)
  else (dividend / divisor.toUInt32, dividend % divisor.toUInt32)

/-- `EFGH` by `NP`: the quotient into `AB` and `CD`, the remainder into `JKLM`.
Division by zero clears them and sets the overflow flag. -/
def divide (unit : Arithmetic) : Arithmetic :=
  if unit.np = 0 then
    { unit with ab := 0, cd := 0, jklm := 0, overflow := true, carry := false }
  else
    let result := division unit.signed unit.efgh unit.np
    { unit with
      ab := (result.1 >>> 16).toUInt16
      cd := result.1.toUInt16
      jklm := result.2
      overflow := false
      carry := false }

def quotient (unit : Arithmetic) : UInt32 :=
  unit.ab.toUInt32 <<< 16 ||| unit.cd.toUInt32

/-! ## Register access -/

/-- A byte of a register. The 32-bit registers are two pairs each. -/
inductive Operand where
  | ab (half : Half)
  | cd (half : Half)
  | np (half : Half)
  | efgh (pair : Half) (half : Half)
  | jklm (pair : Half) (half : Half)
  deriving DecidableEq, Repr

/-- The operand byte at an offset in the chip's page. The last bytes of the
unit's window are reserved. -/
def Operand.ofOffset? (offset : UInt8) : Option Operand :=
  match offset.toNat with
  | 0x60 => some (.cd .low)
  | 0x61 => some (.cd .high)
  | 0x62 => some (.ab .low)
  | 0x63 => some (.ab .high)
  | 0x64 => some (.np .low)
  | 0x65 => some (.np .high)
  | 0x66 => some (.efgh .low .low)
  | 0x67 => some (.efgh .low .high)
  | 0x68 => some (.efgh .high .low)
  | 0x69 => some (.efgh .high .high)
  | 0x6A => some (.jklm .low .low)
  | 0x6B => some (.jklm .low .high)
  | 0x6C => some (.jklm .high .low)
  | 0x6D => some (.jklm .high .high)
  | _ => none

def pair (long : UInt32) : Half → UInt16
  | .low => long.toUInt16
  | .high => (long >>> 16).toUInt16

/-- A 32-bit register with one pair replaced. -/
def withPair (long : UInt32) (word : UInt16) : Half → UInt32
  | .low => long &&& (0xFFFF0000 : UInt32) ||| word.toUInt32
  | .high => long &&& (0x0000FFFF : UInt32) ||| word.toUInt32 <<< 16

/-- What writing one byte makes of a pair: the low byte clears the high one. -/
def loadPair (word : UInt16) (value : UInt8) : Half → UInt16
  | .low => value.toUInt16
  | .high => Word.withByte word value .high

/-- The same within a 32-bit register. -/
def loadLong (long : UInt32) (value : UInt8) (which half : Half) : UInt32 :=
  withPair long (loadPair (pair long which) value half) which

def get (unit : Arithmetic) : Operand → UInt8
  | .ab half => Word.byte unit.ab half
  | .cd half => Word.byte unit.cd half
  | .np half => Word.byte unit.np half
  | .efgh which half => Word.byte (pair unit.efgh which) half
  | .jklm which half => Word.byte (pair unit.jklm which) half

def load (unit : Arithmetic) (value : UInt8) : Operand → Arithmetic
  | .ab half => { unit with ab := loadPair unit.ab value half }
  | .cd half => { unit with cd := loadPair unit.cd value half }
  | .np half => { unit with np := loadPair unit.np value half }
  | .efgh which half => { unit with efgh := loadLong unit.efgh value which half }
  | .jklm which half => { unit with jklm := loadLong unit.jklm value which half }

inductive Operation where
  | multiplication
  | division
  deriving DecidableEq, Repr

/-- The operation that loading an operand byte starts, if any. -/
def Operand.starts? : Operand → Option Operation
  | .ab .high => some .multiplication
  | .efgh .high .high => some .division
  | _ => none

def perform (unit : Arithmetic) : Operation → Arithmetic
  | .multiplication => unit.multiply
  | .division => unit.divide

/-- Load an operand byte and carry out the operation that this starts. -/
def set (unit : Arithmetic) (operand : Operand) (value : UInt8) : Arithmetic :=
  match operand.starts? with
  | some operation => (unit.load value operand).perform operation
  | none => unit.load value operand

/-- Read at an offset in the chip's page; what is not an operand reads high. -/
def read (unit : Arithmetic) (offset : UInt8) : UInt8 :=
  match Operand.ofOffset? offset with
  | some operand => unit.get operand
  | none => 0xFF

/-- Write at an offset in the chip's page; what is not an operand ignores it. -/
def write (unit : Arithmetic) (offset value : UInt8) : Arithmetic :=
  match Operand.ofOffset? offset with
  | some operand => unit.set operand value
  | none => unit

end Arithmetic

end LynxSuzy
