import LynxSuzy.Proofs.Bits
import Mathlib.Algebra.Order.Ring.Nat

/-!
Contract: a line's bytes as one string of bits, and the reader as a cursor in it.

Owns: the bits of a number and the number that bits form, most significant first;
the string that a reader has still to go through, as far as it has counted; what a
request takes off its front; and the place in the string that a row of requests
leads to. The window keeps the last 32 bits that have been drawn. A request can draw
more than that, but its answer is the low byte of what it has taken, and that never
lies outside.

Does **not** own: what the bits of a line mean (`Proofs.Decoding`).
-/

set_option autoImplicit false

namespace LynxSuzy.Line

/-- The lowest bits of a number, most significant first. -/
def binary : Nat → Nat → List Bool
  | 0, _ => []
  | width + 1, value => value.testBit width :: binary width value

/-- The number that some bits form, most significant first. -/
def number (bits : List Bool) : Nat :=
  bits.foldl (fun value bit => 2 * value + bit.toNat) 0

def bitString (bytes : List UInt8) : List Bool :=
  bytes.flatMap fun byte => binary 8 byte.toNat

@[simp] theorem length_binary (width value : Nat) : (binary width value).length = width := by
  induction width with
  | zero => rfl
  | succ width recurse => rw [binary, List.length_cons, recurse]

@[simp] theorem length_bitString (bytes : List UInt8) :
    (bitString bytes).length = 8 * bytes.length := by
  induction bytes with
  | nil => rfl
  | cons byte bytes recurse =>
      simp only [bitString] at recurse
      rw [bitString, List.flatMap_cons, List.length_append, length_binary, recurse,
        List.length_cons]
      omega

/-- The bits of a number from one place up stand before those below it. -/
theorem binary_add (high low value : Nat) :
    binary (high + low) value = binary high (value / 2 ^ low) ++ binary low value := by
  induction high with
  | zero => rw [Nat.zero_add, binary, List.nil_append]
  | succ high recurse =>
      rw [Nat.succ_add, binary, binary, recurse, Nat.testBit_div_two_pow, List.cons_append]

/-- Higher bits do not matter. -/
theorem binary_mod {width more : Nat} (inside : width ≤ more) (value : Nat) :
    binary width (value % 2 ^ more) = binary width value := by
  induction width with
  | zero => rfl
  | succ width recurse =>
      rw [binary, binary, recurse (by omega), Nat.testBit_mod_two_pow,
        decide_eq_true (show width < more from inside), Bool.true_and]

theorem number_concat (bits : List Bool) (bit : Bool) :
    number (bits ++ [bit]) = 2 * number bits + bit.toNat := by
  simp only [number, List.foldl_append, List.foldl_cons, List.foldl_nil]

theorem number_binary (width value : Nat) : number (binary width value) = value % 2 ^ width := by
  induction width generalizing value with
  | zero =>
      rw [Nat.pow_zero, Nat.mod_one]
      rfl
  | succ width recurse =>
      -- Numbers grow at their lower end, so the last bit is taken off.
      have last : binary 1 value = [value.testBit 0] := rfl
      rw [binary_add width 1, last, number_concat, recurse, Nat.toNat_testBit, Nat.pow_zero,
        Nat.div_one, Nat.pow_one, Nat.pow_succ', Nat.mod_mul, Nat.add_comm]

namespace Bits

theorem countBits_of_lt {bytes : Nat} (few : bytes < 2 ^ 29) : countBits bytes = 8 * bytes := by
  have size : UInt32.size = 4294967296 := rfl
  rw [countBits, size]
  omega

/-- The bits held in the window, and those of the bytes beyond it. -/
def ahead (bits : Bits) : List Bool :=
  binary bits.held bits.window.toNat ++ bitString bits.rest

/-- The bits that a reader has still to go through. Those ahead that it has not
counted are not among them. -/
def toList (bits : Bits) : List Bool :=
  bits.ahead.take bits.left

theorem Balanced.length_toList {bits : Bits} (balanced : bits.Balanced) :
    bits.toList.length = bits.left := by
  rw [toList, List.length_take, ahead, List.length_append, length_binary, length_bitString]
  exact Nat.min_eq_left balanced.left_le

end Bits

/-- The bits of a line that a reader goes through. -/
def countedBits (bytes : List UInt8) : List Bool :=
  (bitString bytes).take (Bits.countBits bytes.length)

theorem toList_ofBytes (bytes : List UInt8) : (Bits.ofBytes bytes).toList = countedBits bytes := rfl

theorem length_countedBits (bytes : List UInt8) :
    (countedBits bytes).length = Bits.countBits bytes.length :=
  (Bits.balanced_ofBytes bytes).length_toList

theorem countedBits_of_lt {bytes : List UInt8} (few : bytes.length < 2 ^ 29) :
    countedBits bytes = bitString bytes := by
  rw [countedBits, Bits.countBits_of_lt few, ← length_bitString, List.take_length]

namespace Bits

/-! ## Drawing bytes -/

/-- A byte goes in below what the window holds, and the top of the window out. -/
theorem toNat_window_append (window : UInt32) (byte : UInt8) :
    (window <<< 8 ||| byte.toUInt32).toNat = (window.toNat * 2 ^ 8 + byte.toNat) % 2 ^ 32 := by
  have small : byte.toNat < 2 ^ 8 := byte.toNat_lt
  have shift : (8 : UInt32).toNat % 32 = 8 := rfl
  rw [UInt32.toNat_or, UInt32.toNat_shiftLeft, UInt8.toNat_toUInt32, shift, ← Nat.shiftLeft_eq,
    Nat.shiftLeft_add_eq_or_of_lt small, Nat.or_mod_two_pow,
    Nat.mod_eq_of_lt (show byte.toNat < 2 ^ 32 by omega)]

/-- **Drawing bytes leaves the string as it is.** What has been drawn is told by a
number of which the window keeps the last 32 bits. -/
theorem refill_toList (wanted : Nat) (rest : List UInt8) :
    ∀ (window : UInt32) (held drawn : Nat), window.toNat = drawn % 2 ^ 32 →
      let filled := refill wanted rest window held
      ∃ grown, filled.2.1.toNat = grown % 2 ^ 32
        ∧ binary filled.2.2 grown ++ bitString filled.1
          = binary held drawn ++ bitString rest := by
  induction rest with
  | nil => exact fun _ _ drawn kept => ⟨drawn, kept, rfl⟩
  | cons byte rest recurse =>
      intro window held drawn kept
      rw [refill]
      split
      · have small : byte.toNat < 2 ^ 8 := byte.toNat_lt
        have further : (window <<< 8 ||| byte.toUInt32).toNat
            = (drawn * 2 ^ 8 + byte.toNat) % 2 ^ 32 := by
          rw [toNat_window_append, kept]
          omega
        obtain ⟨grown, last, same⟩ := recurse _ (held + 8) _ further
        refine ⟨grown, last, ?_⟩
        have above : (drawn * 2 ^ 8 + byte.toNat) / 2 ^ 8 = drawn := by omega
        have below : (drawn * 2 ^ 8 + byte.toNat) % 2 ^ 8 = byte.toNat := by omega
        rw [same, binary_add, above, ← binary_mod (Nat.le_refl 8), below, List.append_assoc]
        rfl
      · exact ⟨drawn, kept, rfl⟩

/-! ## Requests -/

theorem toNat_and_mask (word : UInt32) {width : Nat} (narrow : width < 32) :
    (word &&& ((1 : UInt32) <<< UInt32.ofNat width - 1)).toNat = word.toNat % 2 ^ width := by
  have power : 2 ^ width < 2 ^ 32 := Nat.pow_lt_pow_right (by decide) narrow
  have shift : (UInt32.ofNat width).toNat % 32 = width := by
    rw [UInt32.toNat_ofNat', Nat.mod_mod_of_dvd _ (by decide), Nat.mod_eq_of_lt narrow]
  have bit : ((1 : UInt32) <<< UInt32.ofNat width).toNat = 2 ^ width := by
    rw [UInt32.toNat_shiftLeft, shift, UInt32.toNat_one, Nat.one_shiftLeft,
      Nat.mod_eq_of_lt power]
  have one : (1 : UInt32) ≤ (1 : UInt32) <<< UInt32.ofNat width := by
    rw [UInt32.le_iff_toNat_le, bit]
    exact Nat.one_le_two_pow
  rw [UInt32.toNat_and, UInt32.toNat_sub_of_le _ _ one, bit, UInt32.toNat_one,
    Nat.and_two_pow_sub_one_eq_mod]

/-- What a mask and a shift pick from the window is, as far as its low byte goes,
what they would pick from all that has been drawn. -/
theorem low_byte_of_window {keep : Nat} (few : keep < 8) (wanted drawn : Nat) :
    drawn % 2 ^ 32 / 2 ^ keep % 2 ^ wanted % 2 ^ 8 = drawn / 2 ^ keep % 2 ^ wanted % 2 ^ 8 := by
  have kept : drawn % 2 ^ 32 / 2 ^ keep % 2 ^ 8 = drawn / 2 ^ keep % 2 ^ 8 := by
    apply Nat.eq_of_testBit_eq
    intro place
    simp only [Nat.testBit_mod_two_pow, Nat.testBit_div_two_pow]
    by_cases inside : place < 8
    · rw [decide_eq_true (show place + keep < 32 by omega), Bool.true_and]
    · rw [decide_eq_false inside, Bool.false_and, Bool.false_and]
  apply Nat.eq_of_testBit_eq
  intro place
  have same := congrArg (Nat.testBit · place) kept
  simp only [Nat.testBit_mod_two_pow] at same ⊢
  rw [Bool.and_left_comm, same, Bool.and_left_comm]

/-- **A request takes its bits off the front of the string**, and answers with the
low byte of the number that they form. -/
theorem Balanced.take_spec {bits : Bits} (balanced : bits.Balanced) {wanted : Nat}
    (narrow : wanted < 32) (enough : wanted ≤ bits.left) :
    (bits.take wanted).1 = UInt8.ofNat (number (bits.toList.take wanted))
      ∧ (bits.take wanted).2.toList = bits.toList.drop wanted := by
  by_cases nothing : wanted = 0
  · subst nothing
    exact ⟨rfl, rfl⟩
  · obtain ⟨served, few⟩ := balanced.serves enough
    have granted : ¬(wanted = 0 ∨ bits.left < wanted) := by omega
    obtain ⟨drawn, kept, same⟩ :=
      refill_toList wanted bits.rest bits.window bits.held bits.window.toNat
        (Nat.mod_eq_of_lt bits.window.toNat_lt).symm
    rw [Bits.take, if_neg granted]
    generalize filled : refill wanted bits.rest bits.window bits.held = after at *
    obtain ⟨rest, window, held⟩ := after
    obtain ⟨keep, rfl⟩ := Nat.exists_eq_add_of_le served
    dsimp only at few kept same ⊢
    rw [Nat.add_sub_cancel_left] at few ⊢
    rw [binary_add, List.append_assoc] at same
    have front : bits.ahead = _ := same.symm
    have shift : (UInt32.ofNat keep).toNat % 32 = keep := by
      rw [UInt32.toNat_ofNat', Nat.mod_mod_of_dvd _ (by decide), Nat.mod_eq_of_lt (by omega)]
    constructor
    · rw [Bits.toList, List.take_take, Nat.min_eq_left enough, front,
        List.take_left' (length_binary _ _), number_binary]
      apply UInt8.toNat_inj.1
      rw [UInt32.toNat_toUInt8, toNat_and_mask _ narrow, UInt32.toNat_shiftRight, shift, kept,
        Nat.shiftRight_eq_div_pow, UInt8.toNat_ofNat']
      exact low_byte_of_window few wanted drawn
    · rw [Bits.toList, Bits.toList, List.drop_take, front, List.drop_left' (length_binary _ _), ahead,
        toNat_and_mask _ (by omega : keep < 32), kept,
        Nat.mod_mod_of_dvd _ (Nat.pow_dvd_pow 2 (by omega)), binary_mod (Nat.le_refl keep)]

/-- A number that stands at the front of the string is read as it was written. -/
theorem Balanced.take_binary {bits : Bits} (balanced : bits.Balanced) (width value : Nat)
    {string : List Bool} (narrow : width < 32) (fits : value < 2 ^ width)
    (written : bits.toList = binary width value ++ string) :
    (bits.take width).1 = UInt8.ofNat value ∧ (bits.take width).2.toList = string := by
  have enough : width ≤ bits.left := by
    rw [← balanced.length_toList, written, List.length_append, length_binary]
    exact Nat.le_add_right _ _
  obtain ⟨answer, left⟩ := balanced.take_spec narrow enough
  rw [written, List.take_left' (length_binary _ _), number_binary, Nat.mod_eq_of_lt fits]
    at answer
  rw [written, List.drop_left' (length_binary _ _)] at left
  exact ⟨answer, left⟩

end Bits

/-! ## Requests one after another -/

/-- Where a request leads in a string of so many bits: past what it asks for, or
nowhere if the string ends before that. -/
def advance (total place wanted : Nat) : Nat :=
  if place + wanted ≤ total then place + wanted else place

def placeAfter (total : Nat) (requests : List Nat) : Nat :=
  requests.foldl (advance total) 0

namespace Bits

def after (bits : Bits) (requests : List Nat) : Bits :=
  requests.foldl (fun bits wanted => (bits.take wanted).2) bits

structure StandsAt (bits : Bits) (string : List Bool) (place : Nat) : Prop where
  balanced : bits.Balanced
  inside : place ≤ string.length
  toList : bits.toList = string.drop place

section Cursor

variable {bits : Bits} {string : List Bool} {place : Nat}

theorem StandsAt.place_add_left (stands : bits.StandsAt string place) :
    place + bits.left = string.length := by
  have left := stands.balanced.length_toList
  rw [stands.toList, List.length_drop] at left
  have inside := stands.inside
  omega

/-- **A request takes a reader where it leads in the string.** -/
theorem StandsAt.take (stands : bits.StandsAt string place) {wanted : Nat}
    (narrow : wanted < 32) :
    (bits.take wanted).2.StandsAt string (advance string.length place wanted) := by
  have left := stands.place_add_left
  by_cases enough : wanted ≤ bits.left
  · have served : place + wanted ≤ string.length := by omega
    rw [advance, if_pos served]
    refine ⟨stands.balanced.take wanted, served, ?_⟩
    rw [(stands.balanced.take_spec narrow enough).2, stands.toList, List.drop_drop]
  · have short : ¬place + wanted ≤ string.length := by omega
    rw [advance, if_neg short, take_of_short bits (Nat.lt_of_not_le enough)]
    exact stands

theorem StandsAt.after (requests : List Nat) (narrow : ∀ wanted ∈ requests, wanted < 32) :
    ∀ {bits : Bits} {place : Nat}, bits.StandsAt string place →
      (bits.after requests).StandsAt string (requests.foldl (advance string.length) place) := by
  induction requests with
  | nil => exact fun stands => stands
  | cons wanted requests recurse =>
      intro bits place stands
      exact recurse (fun other among => narrow other (List.mem_cons_of_mem _ among))
        (stands.take (narrow wanted List.mem_cons_self))

end Cursor

theorem standsAt_ofBytes (bytes : List UInt8) :
    (ofBytes bytes).StandsAt (countedBits bytes) 0 where
  balanced := balanced_ofBytes bytes
  inside := Nat.zero_le _
  toList := toList_ofBytes bytes

/-- **A reader is a cursor in its string of bits.** Whatever has been asked for, up to
31 bits at a time, it stands where the requests lead that the bits it has counted could
serve. There a request for some bits, and no more than are left, is answered with the
low byte of the number that the next ones form, and takes them off those left. Any other
is answered with zero and leaves the reader as it is. No bit is counted that is not in
the string, and all of them are if it has fewer than 2 ^ 29 bytes. -/
theorem requests_move_a_cursor (bytes : List UInt8) {requests : List Nat} {wanted : Nat}
    (narrow : ∀ size ∈ wanted :: requests, size ≤ 31) :
    let string := bitString bytes
    let counted := countBits bytes.length
    let place := placeAfter counted requests
    let reader := (ofBytes bytes).after requests
    (counted ≤ string.length ∧ (bytes.length < 2 ^ 29 → counted = string.length))
      ∧ place + reader.left = counted
      ∧ (0 < wanted ∧ wanted ≤ reader.left →
          (reader.take wanted).1 = UInt8.ofNat (number ((string.drop place).take wanted))
            ∧ (reader.take wanted).2.left = reader.left - wanted)
      ∧ (wanted = 0 ∨ reader.left < wanted → reader.take wanted = (0, reader)) := by
  intro string counted place reader
  have stands : reader.StandsAt (countedBits bytes) place := by
    have run := StandsAt.after requests
      (fun size among => Nat.lt_succ_of_le (narrow size (List.mem_cons_of_mem _ among)))
      (standsAt_ofBytes bytes)
    rwa [length_countedBits] at run
  have left := stands.place_add_left
  rw [length_countedBits] at left
  have fits : wanted < 32 := Nat.lt_succ_of_le (narrow wanted List.mem_cons_self)
  refine ⟨⟨?_, fun few => ?_⟩, left, fun served => ⟨?_, take_left reader served.2⟩,
    take_of_refused reader⟩
  · rw [length_bitString]
    exact countBits_le bytes.length
  · rw [length_bitString]
    exact countBits_of_lt few
  · -- What is asked for ends before the counted bits do.
    have within : wanted ≤ counted - place := by omega
    rw [(stands.balanced.take_spec fits served.2).1, stands.toList, countedBits, List.drop_take,
      List.take_take, Nat.min_eq_left within]

/-- Behind two bits, 31 more are drawn with seven that stay. Eight cannot be had
then, but four can, and the last three come behind those. -/
theorem leftover_bits_are_kept :
    let reader := ofBytes [0xA5, 0x5A, 0xC3, 0x3C, 0x96]
    (∀ size ∈ [31, 2], size ≤ 31) ∧ (∀ size ∈ [3, 2, 31, 8, 4], size ≤ 31)
      ∧ ((reader.after [2]).take 31).1 = 0x79
      ∧ (reader.after [2, 31]).take 8 = (0, reader.after [2, 31])
      ∧ ((reader.after [2, 31, 8, 4]).take 3).1 = 6 := by
  intro reader
  have first : ∀ size ∈ [31, 2], size ≤ 31 := by decide
  have last : ∀ size ∈ [3, 2, 31, 8, 4], size ≤ 31 := by decide
  obtain ⟨_, _, given, _⟩ := requests_move_a_cursor [0xA5, 0x5A, 0xC3, 0x3C, 0x96] first
  obtain ⟨_, _, _, refused⟩ := requests_move_a_cursor [0xA5, 0x5A, 0xC3, 0x3C, 0x96]
    (show ∀ size ∈ [8, 2, 31], size ≤ 31 by decide)
  obtain ⟨_, _, rest, _⟩ := requests_move_a_cursor [0xA5, 0x5A, 0xC3, 0x3C, 0x96] last
  refine ⟨first, last, (given (by decide)).1.trans (by decide), refused (by decide),
    (rest (by decide)).1.trans (by decide)⟩

end Bits

end LynxSuzy.Line
