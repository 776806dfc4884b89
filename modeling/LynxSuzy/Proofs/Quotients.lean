import LynxSuzy.Proofs.Operands

/-!
Contract: quotients and remainders, as software gets them through the registers.

Owns: a dividend and a divisor loaded by six writes, of which the last divides; the
quotient, whose halves are the factors of the next product; and what the unit leaves
in either mode and for a divisor of zero. The guard that keeps the unit from dividing
by a magnitude of zero never counts, for only zero has one.

Does **not** own: products (`Proofs.Products`).
-/

set_option autoImplicit false

namespace LynxSuzy.Arithmetic

/-- Load a divisor and a dividend, a byte at a time. The last byte divides. -/
def loadDivision (unit : Arithmetic) (dividend : UInt32) (divisor : UInt16) : Arithmetic :=
  let loaded := (unit.write 0x64 (Word.byte divisor .low)).write 0x65 (Word.byte divisor .high)
  let lower := (loaded.write 0x66 (Word.byte (pair dividend .low) .low)).write 0x67
    (Word.byte (pair dividend .low) .high)
  (lower.write 0x68 (Word.byte (pair dividend .high) .low)).write 0x69
    (Word.byte (pair dividend .high) .high)

/-- **A load divides its dividend by its divisor** and nothing that the registers held
before. -/
theorem loadDivision_eq (unit : Arithmetic) (dividend : UInt32) (divisor : UInt16) :
    unit.loadDivision dividend divisor
      = { unit with np := divisor, efgh := dividend }.divide := by
  have np := loadPair_byte unit.np divisor
  have lower := loadLong_byte unit.efgh (pair dividend .low) .low
  have upper := loadLong_byte (withPair unit.efgh (pair dividend .low) .low)
    (pair dividend .high) .high
  show { unit with
    np := loadPair (loadPair unit.np _ .low) _ .high
    efgh := loadLong (loadLong (loadLong (loadLong unit.efgh _ .low .low) _ .low .high) _ .high
      .low) _ .high .high }.divide = _
  rw [np, lower, upper, withPair_pair]

theorem quotient_of_halves {unit : Arithmetic} {result : UInt32}
    (upper : unit.ab = (result >>> 16).toUInt16) (lower : unit.cd = result.toUInt16) :
    unit.quotient = result := by
  rw [quotient, upper, lower]
  apply UInt32.toBitVec_inj.1
  ext bit bound
  interval_cases bit <;> simp [-UInt32.toUInt32_toUInt16]

/-! ## One division -/

/-- **The guard of a division never counts.** -/
theorem max_magnitude {divisor : UInt16} (some : divisor ≠ 0) :
    max (SignMagnitude.ofWord divisor).magnitude 1 = (SignMagnitude.ofWord divisor).magnitude := by
  apply UInt32.toNat_inj.1
  rw [UInt32.toNat_max]
  exact Nat.max_eq_left (SignMagnitude.magnitude_ofWord_pos some)

/-- The sign that two operands give a quotient is that of the truncated one. -/
theorem tdiv_value (first second : SignMagnitude) :
    first.value.tdiv second.value
      = if first.negative = second.negative then
          ((first.magnitude.toNat / second.magnitude.toNat : Nat) : Int)
        else -((first.magnitude.toNat / second.magnitude.toNat : Nat) : Int) := by
  rw [Int.ofNat_tdiv]
  unfold SignMagnitude.value
  cases first.negative <;> cases second.negative <;> simp [Int.neg_tdiv, Int.tdiv_neg]

/-- **Division with signs** truncates toward zero; its remainder is that of the
magnitudes. -/
theorem division_signed (dividend : UInt32) {divisor : UInt16} (some : divisor ≠ 0) :
    let result := division true dividend divisor
    let numerator := Word.longReading dividend
    let denominator := Word.reading divisor
    (result.1.toNat : Int) = numerator.tdiv denominator % 2 ^ 32
      ∧ result.2.toNat = numerator.natAbs % denominator.natAbs
      ∧ result.2.toNat < 0x8000 := by
  intro result numerator denominator
  have quotient : result.1 = (SignMagnitude.ofLong dividend).applySigns
      (SignMagnitude.ofWord divisor)
      ((SignMagnitude.ofLong dividend).magnitude / (SignMagnitude.ofWord divisor).magnitude) := by
    simp only [result, division, if_true, max_magnitude some]
  have remainder : result.2.toNat = (SignMagnitude.ofLong dividend).magnitude.toNat
      % (SignMagnitude.ofWord divisor).magnitude.toNat := by
    simp only [result, division, if_true, max_magnitude some, UInt32.toNat_mod]
  have positive := SignMagnitude.magnitude_ofWord_pos some
  have least := SignMagnitude.magnitude_ofWord_le divisor
  refine ⟨?_, ?_, ?_⟩
  · rw [quotient, SignMagnitude.toNat_applySigns, UInt32.toNat_div]
    simp only [numerator, denominator, ← SignMagnitude.value_ofWord, ← SignMagnitude.value_ofLong,
      tdiv_value]
  · rw [remainder, ← SignMagnitude.natAbs_value, ← SignMagnitude.natAbs_value,
      SignMagnitude.value_ofLong, SignMagnitude.value_ofWord]
  · rw [remainder]
    exact Nat.lt_of_lt_of_le (Nat.mod_lt _ positive) least

/-- **Division without signs** leaves what the quotient does not account for. -/
theorem division_unsigned (dividend : UInt32) {divisor : UInt16} (some : divisor ≠ 0) :
    let result := division false dividend divisor
    result.1.toNat * divisor.toNat + result.2.toNat = dividend.toNat
      ∧ result.2.toNat < divisor.toNat := by
  intro result
  have positive : 0 < divisor.toNat :=
    Nat.pos_of_ne_zero fun zero => some (UInt16.toNat_inj.1 zero)
  have quotient : result.1.toNat = dividend.toNat / divisor.toNat := by
    simp only [result, division, Bool.false_eq_true, if_false, UInt32.toNat_div,
      UInt16.toNat_toUInt32]
  have remainder : result.2.toNat = dividend.toNat % divisor.toNat := by
    simp only [result, division, Bool.false_eq_true, if_false, UInt32.toNat_mod,
      UInt16.toNat_toUInt32]
  rw [quotient, remainder]
  exact ⟨Nat.div_add_mod' _ _, Nat.mod_lt _ positive⟩

section Outcomes

variable (unit : Arithmetic)

theorem divide_of_zero (zero : unit.np = 0) :
    unit.divide = { unit with ab := 0, cd := 0, jklm := 0, overflow := true, carry := false } := by
  rw [divide, if_pos zero]

theorem divide_of_ne_zero (some : unit.np ≠ 0) :
    let result := division unit.signed unit.efgh unit.np
    unit.divide
      = { unit with
          ab := (result.1 >>> 16).toUInt16
          cd := result.1.toUInt16
          jklm := result.2
          overflow := false
          carry := false } := by
  rw [divide, if_neg some]

theorem quotient_divide (some : unit.np ≠ 0) :
    unit.divide.quotient = (division unit.signed unit.efgh unit.np).1 := by
  rw [divide_of_ne_zero unit some]
  exact quotient_of_halves rfl rfl

end Outcomes

/-- **Division through the registers.** For every unit, dividend and divisor, loaded byte
by byte: the dividend, the divisor and the modes stay, and the carry flag is clear. The
overflow flag says whether the divisor is zero, and then quotient and remainder are zero.
Otherwise, without signs, they account for the dividend, and the remainder is less than the
divisor. With signs the quotient is that of the operands' readings, truncated toward zero
and taken modulo 2^32, and the remainder is that of their magnitudes, whatever the signs
are. -/
theorem division_through_registers (unit : Arithmetic) (dividend : UInt32) (divisor : UInt16) :
    let after := unit.loadDivision dividend divisor
    after.efgh = dividend ∧ after.np = divisor
      ∧ after.signed = unit.signed ∧ after.accumulate = unit.accumulate
      ∧ after.carry = false ∧ (after.overflow = true ↔ divisor = 0)
      ∧ (divisor = 0 → after.ab = 0 ∧ after.cd = 0 ∧ after.jklm = 0)
      ∧ (divisor ≠ 0 → unit.signed = false →
        after.quotient.toNat * after.np.toNat + after.jklm.toNat = after.efgh.toNat
          ∧ after.jklm.toNat < after.np.toNat)
      ∧ (divisor ≠ 0 → unit.signed = true →
        let numerator := Word.longReading dividend
        let denominator := Word.reading divisor
        (after.quotient.toNat : Int) = numerator.tdiv denominator % 2 ^ 32
          ∧ after.jklm.toNat = numerator.natAbs % denominator.natAbs
          ∧ after.jklm.toNat < 2 ^ 15 + 1) := by
  let loaded : Arithmetic := { unit with np := divisor, efgh := dividend }
  intro after
  have divided : after = loaded.divide := unit.loadDivision_eq dividend divisor
  by_cases zero : divisor = 0
  · have outcome := divided.trans (divide_of_zero loaded zero)
    rw [outcome]
    exact ⟨rfl, rfl, rfl, rfl, rfl, iff_of_true rfl zero, fun _ => ⟨rfl, rfl, rfl⟩,
      fun some => absurd zero some, fun some => absurd zero some⟩
  · have quotient : after.quotient = (division unit.signed dividend divisor).1 := by
      rw [divided]
      exact quotient_divide loaded zero
    have outcome := divided.trans (divide_of_ne_zero loaded zero)
    have remainder : after.jklm = (division unit.signed dividend divisor).2 := by
      rw [outcome]
    have efgh : after.efgh = dividend := by rw [outcome]
    have np : after.np = divisor := by rw [outcome]
    rw [quotient, remainder, efgh, np]
    refine ⟨rfl, rfl, ?_, ?_, ?_, ?_, fun none => absurd none zero, ?_, ?_⟩
    · rw [outcome]
    · rw [outcome]
    · rw [outcome]
    · rw [outcome]
      exact iff_of_false Bool.false_ne_true zero
    · intro _ unsigned
      rw [unsigned]
      exact division_unsigned dividend zero
    · intro _ signed
      obtain ⟨truncated, rest, least⟩ := division_signed dividend zero
      rw [signed]
      exact ⟨truncated, rest, Nat.lt_succ_of_lt least⟩

/-- Minus seven by two leaves one, which is not negated. -/
theorem minus_seven_by_two :
    let after := { initial with signed := true }.loadDivision 0xFFFFFFF9 2
    (2 : UInt16) ≠ 0 ∧ (after.quotient.toNat : Int) = -3 % 2 ^ 32 ∧ after.jklm.toNat = 1
      ∧ after.overflow = false ∧ after.carry = false := by
  intro after
  have some : (2 : UInt16) ≠ 0 := by decide
  obtain ⟨_, _, _, _, carry, overflow, _, _, signs⟩ :=
    division_through_registers { initial with signed := true } 0xFFFFFFF9 2
  obtain ⟨quotient, remainder, _⟩ := signs some rfl
  exact ⟨some, quotient, remainder, Bool.eq_false_iff.2 fun set => some (overflow.1 set), carry⟩

end LynxSuzy.Arithmetic
