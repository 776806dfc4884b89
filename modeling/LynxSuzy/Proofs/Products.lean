import LynxSuzy.Proofs.Operands
import Mathlib.Data.List.Induction

/-!
Contract: products and their sum, as software gets them through the registers.

Owns: a pair of factors loaded by four writes, of which the last multiplies; the
exact product of a pair in either mode and the word that stands for it; and what a
row of loads leaves, which is the last product, the sum of all of them and the flags of
the last addition.

Does **not** own: division (`Proofs.Quotients`).
-/

set_option autoImplicit false

namespace LynxSuzy.Arithmetic

/-- Load two factors, a byte at a time. The last byte multiplies them. -/
def loadFactors (unit : Arithmetic) (factors : UInt16 × UInt16) : Arithmetic :=
  (((unit.write 0x60 (Word.byte factors.2 .low)).write 0x61 (Word.byte factors.2 .high)).write 0x62
    (Word.byte factors.1 .low)).write 0x63 (Word.byte factors.1 .high)

def loadAll (unit : Arithmetic) (pairs : List (UInt16 × UInt16)) : Arithmetic :=
  pairs.foldl loadFactors unit

def exactProduct (signed : Bool) (factors : UInt16 × UInt16) : Int :=
  if signed then Word.reading factors.1 * Word.reading factors.2
  else factors.1.toNat * factors.2.toNat

/-- **A load multiplies its factors** and nothing that the registers held before. -/
theorem loadFactors_eq (unit : Arithmetic) (factors : UInt16 × UInt16) :
    unit.loadFactors factors = { unit with ab := factors.1, cd := factors.2 }.multiply := by
  have low := loadPair_byte unit.cd factors.2
  have high := loadPair_byte unit.ab factors.1
  show { unit with
    cd := loadPair (loadPair unit.cd _ .low) _ .high
    ab := loadPair (loadPair unit.ab _ .low) _ .high }.multiply = _
  rw [low, high]

/-! ## One product -/

/-- Magnitudes are too small for their product to wrap. -/
theorem toNat_mul_magnitudes (first second : UInt16) :
    ((SignMagnitude.ofWord first).magnitude * (SignMagnitude.ofWord second).magnitude).toNat
      = (SignMagnitude.ofWord first).magnitude.toNat
        * (SignMagnitude.ofWord second).magnitude.toNat := by
  have bound : (SignMagnitude.ofWord first).magnitude.toNat
      * (SignMagnitude.ofWord second).magnitude.toNat ≤ 0x8000 * 0x8000 :=
    Nat.mul_le_mul (SignMagnitude.magnitude_ofWord_le first)
      (SignMagnitude.magnitude_ofWord_le second)
  rw [UInt32.toNat_mul, Nat.mod_eq_of_lt (by omega)]

/-- **The product of a pair** is the word of the exact one. -/
theorem toNat_product (signed : Bool) (factors : UInt16 × UInt16) :
    ((product signed factors.1 factors.2).toNat : Int) = exactProduct signed factors % 2 ^ 32 := by
  obtain ⟨first, second⟩ := factors
  cases signed with
  | true =>
      have exact : exactProduct true (first, second)
          = (SignMagnitude.ofWord first).value * (SignMagnitude.ofWord second).value := by
        rw [SignMagnitude.value_ofWord, SignMagnitude.value_ofWord]
        rfl
      rw [exact, product, if_pos rfl, SignMagnitude.toNat_applySigns, toNat_mul_magnitudes]
      congr 1
      unfold SignMagnitude.value
      cases (SignMagnitude.ofWord first).negative <;>
        cases (SignMagnitude.ofWord second).negative <;> simp
  | false =>
      show ((first.toUInt32 * second.toUInt32).toNat : Int) = (first.toNat * second.toNat : Int) % _
      rw [UInt32.toNat_mul, UInt16.toNat_toUInt32, UInt16.toNat_toUInt32]
      push_cast
      rfl

/-- Without signs the product is exact. -/
theorem toNat_product_unsigned (first second : UInt16) :
    (product false first second).toNat = first.toNat * second.toNat := by
  have bound : first.toNat * second.toNat ≤ 0xFFFF * 0xFFFF :=
    Nat.mul_le_mul (Nat.le_of_lt_succ first.toNat_lt) (Nat.le_of_lt_succ second.toNat_lt)
  show (first.toUInt32 * second.toUInt32).toNat = _
  rw [UInt32.toNat_mul, UInt16.toNat_toUInt32, UInt16.toNat_toUInt32, Nat.mod_eq_of_lt (by omega)]

structure Multiplied (before : Arithmetic) (factors : UInt16 × UInt16) (after : Arithmetic) :
    Prop where
  efgh : after.efgh = product before.signed factors.1 factors.2
  jklm : after.jklm = if before.accumulate then before.jklm + after.efgh else before.jklm
  overflow : after.overflow = true
    ↔ before.accumulate = true ∧ 2 ^ 32 ≤ before.jklm.toNat + after.efgh.toNat
  carry : after.carry = after.overflow
  np : after.np = before.np
  signed : after.signed = before.signed
  accumulate : after.accumulate = before.accumulate

theorem multiplied_loadFactors (unit : Arithmetic) (factors : UInt16 × UInt16) :
    Multiplied unit factors (unit.loadFactors factors) := by
  rw [loadFactors_eq]
  unfold multiply
  cases adds : unit.accumulate with
  | true => exact ⟨rfl, by simp [adds], by simp [adds, UInt32.size], rfl, rfl, rfl, adds.symm⟩
  | false => exact ⟨rfl, by simp [adds], by simp [adds], rfl, rfl, rfl, adds.symm⟩

/-! ## Rows of products -/

theorem loadAll_concat (unit : Arithmetic) (pairs : List (UInt16 × UInt16))
    (factors : UInt16 × UInt16) :
    unit.loadAll (pairs ++ [factors]) = (unit.loadAll pairs).loadFactors factors :=
  List.foldl_append

/-- What a row of loads keeps, and the sum that it collects. -/
structure Collected (before : Arithmetic) (pairs : List (UInt16 × UInt16)) (after : Arithmetic) :
    Prop where
  jklm : (after.jklm.toNat : Int)
    = if before.accumulate then
        ((before.jklm.toNat : Int) + (pairs.map (exactProduct before.signed)).sum) % 2 ^ 32
      else (before.jklm.toNat : Int)
  np : after.np = before.np
  signed : after.signed = before.signed
  accumulate : after.accumulate = before.accumulate

/-- **A load collects one more product.** -/
theorem Collected.concat {before between after : Arithmetic} {pairs : List (UInt16 × UInt16)}
    {factors : UInt16 × UInt16} (collected : Collected before pairs between)
    (multiplied : Multiplied between factors after) :
    Collected before (pairs ++ [factors]) after := by
  have mode := multiplied.jklm
  have product := toNat_product between.signed factors
  have sofar := collected.jklm
  rw [← multiplied.efgh, collected.signed] at product
  rw [collected.accumulate] at mode
  refine ⟨?_, multiplied.np.trans collected.np, multiplied.signed.trans collected.signed,
    multiplied.accumulate.trans collected.accumulate⟩
  rw [mode]
  cases adds : before.accumulate with
  | true =>
      rw [adds, if_pos rfl] at sofar
      rw [if_pos rfl, if_pos rfl, UInt32.toNat_add, List.map_append, List.sum_append]
      push_cast
      rw [sofar, product]
      simp only [List.map_cons, List.map_nil, List.sum_cons, List.sum_nil]
      omega
  | false =>
      rw [adds, if_neg Bool.false_ne_true] at sofar
      rw [if_neg Bool.false_ne_true, if_neg Bool.false_ne_true, sofar]

theorem collected_loadAll (unit : Arithmetic) (pairs : List (UInt16 × UInt16)) :
    Collected unit pairs (unit.loadAll pairs) := by
  induction pairs using List.reverseRecOn with
  | nil =>
      refine ⟨?_, rfl, rfl, rfl⟩
      have bound := unit.jklm.toNat_lt
      show (unit.jklm.toNat : Int)
        = if unit.accumulate then ((unit.jklm.toNat : Int) + 0) % 2 ^ 32 else _
      split <;> omega
  | append_singleton pairs factors collected =>
      rw [loadAll_concat]
      exact collected.concat (multiplied_loadFactors _ factors)

/-- **Products through the registers.** For every unit and every row of pairs of factors,
each loaded byte by byte: in accumulate mode the sum register holds what it held before
and all products added to it, modulo 2^32, and otherwise it holds what it held before. The
divisor and the modes stay. Behind the last load the result register holds the last product,
modulo 2^32 if operands have signs, and exactly if they have none. Both flags are the same and say
whether the last addition, if there was one, went beyond 32 bits. -/
theorem products_are_collected (unit : Arithmetic) (pairs : List (UInt16 × UInt16)) :
    let after := unit.loadAll pairs
    (after.jklm.toNat : Int)
        = (if unit.accumulate then
            ((unit.jklm.toNat : Int) + (pairs.map (exactProduct unit.signed)).sum) % 2 ^ 32
          else (unit.jklm.toNat : Int))
      ∧ after.np = unit.np ∧ after.signed = unit.signed ∧ after.accumulate = unit.accumulate
      ∧ ∀ earlier first second, pairs = earlier ++ [(first, second)] →
        (after.efgh.toNat : Int) = exactProduct unit.signed (first, second) % 2 ^ 32
          ∧ (unit.signed = false → after.efgh.toNat = first.toNat * second.toNat)
          ∧ (after.overflow = true ↔ unit.accumulate = true
            ∧ 2 ^ 32 - 1 < (unit.loadAll earlier).jklm.toNat + after.efgh.toNat)
          ∧ after.carry = after.overflow := by
  intro after
  obtain ⟨jklm, np, signed, accumulate⟩ := collected_loadAll unit pairs
  refine ⟨jklm, np, signed, accumulate, ?_⟩
  rintro earlier first second rfl
  have kept := collected_loadAll unit earlier
  have multiplied : Multiplied (unit.loadAll earlier) (first, second) after := by
    have last := multiplied_loadFactors (unit.loadAll earlier) (first, second)
    rwa [← loadAll_concat] at last
  have efgh := multiplied.efgh
  have overflow := multiplied.overflow
  rw [kept.signed] at efgh
  rw [kept.accumulate] at overflow
  refine ⟨?_, ?_, overflow, multiplied.carry⟩
  · rw [efgh]
    exact toNat_product unit.signed (first, second)
  · intro unsigned
    rw [efgh, unsigned]
    exact toNat_product_unsigned first second

/-- A unit with signs that adds up, with a sum just below 32 bits. -/
def nearlyFull : Arithmetic :=
  { initial with jklm := 0xFFFFFFF0, signed := true, accumulate := true }

/-- The square of the operand that is positive against its top bit, and minus three times
five: both additions go beyond 32 bits. -/
theorem two_products_collected :
    let after := nearlyFull.loadAll [(0x8000, 0x8000), (0xFFFD, 5)]
    (after.jklm.toNat : Int) = (0xFFFFFFF0 + (0x40000000 + -15)) % 2 ^ 32
      ∧ (after.efgh.toNat : Int) = -15 % 2 ^ 32
      ∧ after.overflow = true ∧ after.carry = true := by
  intro after
  obtain ⟨jklm, _, _, _, last⟩ :=
    products_are_collected nearlyFull [(0x8000, 0x8000), (0xFFFD, 5)]
  obtain ⟨efgh, _, overflow, carry⟩ := last [(0x8000, 0x8000)] 0xFFFD 5 rfl
  have overflows : after.overflow = true := overflow.2 (by decide +kernel)
  exact ⟨jklm, efgh, overflows, carry.trans overflows⟩

end LynxSuzy.Arithmetic
