import LynxSuzy.Arithmetic
import Mathlib.Data.Nat.Bitwise
import Mathlib.Tactic.IntervalCases

/-!
Contract: the operands of the multiply and divide unit.

Owns: the loading of an operand byte by byte, which leaves nothing of what the
register held before, and the number that an operand stands for in signed mode:
that of the two's complement, except that the operand with only its top bit set is
positive. Sign and magnitude give the same number, although zero counts as negative.

Does **not** own: what the operations make of operands (`Proofs.Products`,
`Proofs.Quotients`).
-/

set_option autoImplicit false

namespace LynxSuzy

/-! ## Bytes and pairs -/

namespace Arithmetic

open Word (byte)

/-- The low byte clears the byte above it, which is loaded next. -/
theorem loadPair_byte (word target : UInt16) :
    loadPair (loadPair word (byte target .low) .low) (byte target .high) .high = target := by
  apply UInt16.toBitVec_inj.1
  simp only [loadPair, Word.withByte, byte]
  ext bit bound
  interval_cases bit <;> simp [-UInt16.toUInt16_toUInt8]

theorem pair_withPair (long : UInt32) (word : UInt16) (half : Half) :
    pair (withPair long word half) half = word := by
  apply UInt16.toBitVec_inj.1
  cases half <;> simp only [pair, withPair] <;> ext bit bound <;> interval_cases bit <;> simp

theorem withPair_withPair (long : UInt32) (first second : UInt16) (half : Half) :
    withPair (withPair long first half) second half = withPair long second half := by
  apply UInt32.toBitVec_inj.1
  cases half <;> simp only [withPair] <;> ext bit bound <;> interval_cases bit <;> simp

theorem withPair_pair (long target : UInt32) :
    withPair (withPair long (pair target .low) .low) (pair target .high) .high = target := by
  apply UInt32.toBitVec_inj.1
  simp only [pair, withPair]
  ext bit bound
  interval_cases bit <;> simp [-UInt32.toUInt32_toUInt16]

/-- Both bytes of a pair within a 32-bit register replace that pair. -/
theorem loadLong_byte (long : UInt32) (word : UInt16) (which : Half) :
    loadLong (loadLong long (byte word .low) which .low) (byte word .high) which .high
      = withPair long word which := by
  rw [loadLong, loadLong, pair_withPair, withPair_withPair, loadPair_byte]

end Arithmetic

/-! ## Sign and magnitude -/

theorem top_bit_set_iff {width number : Nat} (narrow : number < 2 ^ (width + 1)) :
    number &&& 2 ^ width ≠ 0 ↔ 2 ^ width ≤ number := by
  have positive : 0 < 2 ^ width := Nat.two_pow_pos width
  have double : 2 ^ (width + 1) = 2 * 2 ^ width := Nat.pow_succ'
  have digit : number / 2 ^ width < 2 := Nat.div_lt_of_lt_mul (by omega)
  rw [Nat.and_two_pow, Nat.testBit_eq_decide_div_mod_eq, Nat.mod_eq_of_lt digit]
  by_cases set : 2 ^ width ≤ number
  · have one : number / 2 ^ width = 1 := by
      have some := Nat.div_pos set positive
      omega
    simp [one, set]
  · have none : number / 2 ^ width = 0 := Nat.div_eq_of_lt (by omega)
    simp [none, set]

/-- **What counts as negative**: zero, from which one is taken round to the top, and
what lies above the top bit. -/
theorem top_bit_of_pred_iff {width number : Nat} (narrow : number < 2 ^ (width + 1)) :
    (2 ^ (width + 1) - 1 + number) % 2 ^ (width + 1) &&& 2 ^ width ≠ 0
      ↔ number = 0 ∨ 2 ^ width < number := by
  have positive : 0 < 2 ^ width := Nat.two_pow_pos width
  have double : 2 ^ (width + 1) = 2 * 2 ^ width := Nat.pow_succ'
  rw [top_bit_set_iff (Nat.mod_lt _ (by omega))]
  rcases Nat.eq_zero_or_pos number with rfl | some
  · rw [Nat.mod_eq_of_lt (by omega)]
    omega
  · have pred : 2 ^ (width + 1) - 1 + number = number - 1 + 2 ^ (width + 1) := by omega
    rw [pred, Nat.add_mod_right, Nat.mod_eq_of_lt (by omega)]
    omega

namespace SignMagnitude

def value (split : SignMagnitude) : Int :=
  if split.negative then -split.magnitude.toNat else split.magnitude.toNat

theorem natAbs_value (split : SignMagnitude) : split.value.natAbs = split.magnitude.toNat := by
  unfold value
  split <;> omega

/-- Two operands of the same sign give a number that is positive, and other two one
that is negative. -/
theorem toNat_applySigns (first second : SignMagnitude) (magnitude : UInt32) :
    ((first.applySigns second magnitude).toNat : Int)
      = (if first.negative = second.negative then (magnitude.toNat : Int)
          else -magnitude.toNat) % 2 ^ 32 := by
  have bound := magnitude.toNat_lt
  unfold applySigns
  by_cases same : first.negative = second.negative
  · rw [if_pos same, if_pos same]
    omega
  · rw [if_neg same, if_neg same, UInt32.toNat_sub]
    have zero : (0 : UInt32).toNat = 0 := rfl
    omega

end SignMagnitude

/-- The number that a 16-bit operand stands for in signed mode. -/
def Word.reading (word : UInt16) : Int :=
  if word = 0x8000 then 0x8000 else Word.signed word

/-- The number that a 32-bit operand stands for in signed mode. -/
def Word.longReading (long : UInt32) : Int :=
  if long = 0x80000000 then 0x80000000 else long.toBitVec.toInt

namespace SignMagnitude

/-- **The split of a 16-bit operand** is one of its reading. -/
theorem value_ofWord (word : UInt16) : (ofWord word).value = Word.reading word := by
  have bound := word.toNat_lt
  have top : (0x8000 : UInt16).toNat = 2 ^ 15 := rfl
  have flag : (word - 1) &&& (0x8000 : UInt16) ≠ 0 ↔ word.toNat = 0 ∨ 0x8000 < word.toNat := by
    rw [ne_eq, ← UInt16.toNat_inj, UInt16.toNat_and, UInt16.toNat_sub, top]
    exact top_bit_of_pred_iff bound
  have single : word = 0x8000 ↔ word.toNat = 0x8000 := UInt16.toNat_inj.symm
  unfold ofWord value Word.reading Word.signed
  simp only [flag, single]
  by_cases negative : word.toNat = 0 ∨ 0x8000 < word.toNat
  · have zero : (0 : UInt16).toNat = 0 := rfl
    rw [if_pos negative]
    simp only [if_true, UInt16.toNat_toUInt32, UInt16.toNat_sub, zero]
    omega
  · rw [if_neg negative]
    simp only [Bool.false_eq_true, if_false, UInt16.toNat_toUInt32]
    omega

/-- **The split of a 32-bit operand** is one of its reading. -/
theorem value_ofLong (long : UInt32) : (ofLong long).value = Word.longReading long := by
  have bound := long.toNat_lt
  have top : (0x80000000 : UInt32).toNat = 2 ^ 31 := rfl
  have flag : (long - 1) &&& (0x80000000 : UInt32) ≠ 0
      ↔ long.toNat = 0 ∨ 0x80000000 < long.toNat := by
    rw [ne_eq, ← UInt32.toNat_inj, UInt32.toNat_and, UInt32.toNat_sub, top]
    exact top_bit_of_pred_iff bound
  have single : long = 0x80000000 ↔ long.toNat = 0x80000000 := UInt32.toNat_inj.symm
  unfold ofLong value Word.longReading
  simp only [flag, single, BitVec.toInt_eq_toNat_cond, UInt32.toNat_toBitVec]
  by_cases negative : long.toNat = 0 ∨ 0x80000000 < long.toNat
  · have zero : (0 : UInt32).toNat = 0 := rfl
    rw [if_pos negative]
    simp only [if_true, UInt32.toNat_sub, zero]
    omega
  · rw [if_neg negative]
    simp only [Bool.false_eq_true, if_false]
    omega

theorem magnitude_ofWord_le (word : UInt16) : (ofWord word).magnitude.toNat ≤ 0x8000 := by
  have lower := Word.signed_lower word
  have upper := Word.signed_upper word
  rw [← natAbs_value, value_ofWord, Word.reading]
  split <;> omega

theorem magnitude_ofWord_pos {word : UInt16} (some : word ≠ 0) :
    0 < (ofWord word).magnitude.toNat := by
  have positive : word.toNat ≠ 0 := fun zero => some (UInt16.toNat_inj.1 zero)
  have bound := word.toNat_lt
  rw [← natAbs_value, value_ofWord, Word.reading, Word.signed]
  split
  · omega
  · split <;> omega

end SignMagnitude

end LynxSuzy
