/-!
Contract: numbers in base sixteen, as the console's messages write them.

Owns: upper-case digits padded with zeros to a least width, and the lower-case
form without padding that escapes use.
-/

set_option autoImplicit false

namespace LynxSuzy.Text

/-- The number in lower-case hexadecimal, without leading zeros. -/
def hexadecimal (value : Nat) : String :=
  String.ofList (Nat.toDigits 16 value)

/-- The number in upper-case hexadecimal, with zeros in front up to a width. -/
def padded (width value : Nat) : String :=
  let digits := (Nat.toDigits 16 value).map Char.toUpper
  String.ofList (List.replicate (width - digits.length) '0' ++ digits)

def byte (value : UInt8) : String := padded 2 value.toNat

def word (value : UInt16) : String := padded 4 value.toNat

/-- A long word as eight digits. -/
def long (value : UInt32) : String := padded 8 value.toNat

end LynxSuzy.Text
