import LynxSuzy.Line.Decoder

/-!
Contract: the arithmetic of reading a line's bits.

Owns: that the bits left are in the window and the bytes beyond it, which hold as
many or more; the ranges of the shifts and differences that serving
a request takes; and a bound on the pixels of a line.

Does **not** own: the values that are read.
-/

set_option autoImplicit false

namespace LynxSuzy.Line

namespace Bits

/-- Less than a byte is held between requests, and every bit left is either held
or lies in a byte that has not been drawn. Bits that were not counted may lie there
too. -/
structure Balanced (bits : Bits) : Prop where
  held_lt : bits.held < 8
  left_le : bits.left ≤ bits.held + 8 * bits.rest.length

theorem balanced_ofBytes (bytes : List UInt8) : (ofBytes bytes).Balanced where
  held_lt := Nat.zero_lt_succ 7
  left_le := by simpa [ofBytes] using countBits_le bytes.length

/-- **Refilling keeps the bits that are left and stops as soon as it may.** -/
theorem refill_spec (wanted : Nat) (rest : List UInt8) :
    ∀ (window : UInt32) (held : Nat), held < wanted + 8 →
      let filled := refill wanted rest window held
      filled.2.2 + 8 * filled.1.length = held + 8 * rest.length
        ∧ filled.2.2 < wanted + 8
        ∧ (wanted ≤ held + 8 * rest.length → wanted ≤ filled.2.2) := by
  induction rest with
  | nil =>
      intro window held small
      exact ⟨rfl, small, fun enough => enough⟩
  | cons byte rest recurse =>
      intro window held small
      rw [refill, List.length_cons]
      split
      · rename_i short
        obtain ⟨balance, few, served⟩ := recurse (window <<< 8 ||| byte.toUInt32) (held + 8)
          (by omega)
        refine ⟨by omega, few, fun enough => served (by omega)⟩
      · rename_i full
        exact ⟨by rw [List.length_cons], small, fun _ => Nat.le_of_not_lt full⟩

/-- The arithmetic of a request stays in range: the window holds what is wanted
before it is taken, and less than a byte beyond it. -/
def Serves (bits : Bits) (wanted : Nat) : Prop :=
  let held := (refill wanted bits.rest bits.window bits.held).2.2
  wanted ≤ held ∧ held - wanted < 8

/-- **A request for no more bits than are left is served.** -/
theorem Balanced.serves {bits : Bits} (balanced : bits.Balanced) {wanted : Nat}
    (enough : wanted ≤ bits.left) : bits.Serves wanted := by
  have held := balanced.held_lt
  have left := balanced.left_le
  obtain ⟨_, few, served⟩ := refill_spec wanted bits.rest bits.window bits.held (by omega)
  exact ⟨served (by omega), by omega⟩

theorem Balanced.take {bits : Bits} (balanced : bits.Balanced) (wanted : Nat) :
    (bits.take wanted).2.Balanced := by
  unfold Bits.take
  split
  · exact balanced
  · rename_i granted
    rw [not_or, Nat.not_lt] at granted
    obtain ⟨served, few⟩ := balanced.serves granted.2
    have held := balanced.held_lt
    have left := balanced.left_le
    have balance := (refill_spec wanted bits.rest bits.window bits.held (by omega)).1
    exact ⟨few, by simp only; omega⟩

end Bits

namespace Decoder

inductive Reaches (first : Decoder) : Decoder → Prop where
  | start : Reaches first first
  | next {decoder : Decoder} (reached : Reaches first decoder) : Reaches first decoder.next.2

theorem balanced_nextLiteral {decoder : Decoder} (balanced : decoder.bits.Balanced)
    (remaining : Nat) : (decoder.nextLiteral remaining).2.bits.Balanced := by
  cases remaining with
  | zero => exact balanced
  | succ remaining =>
      rw [nextLiteral]
      split <;> exact balanced.take decoder.depth

theorem balanced_nextPacket {decoder : Decoder} (balanced : decoder.bits.Balanced) :
    decoder.nextPacket.2.bits.Balanced := by
  have counted := (balanced.take 1).take 4
  unfold nextPacket
  simp only
  split
  · exact counted
  · exact counted.take decoder.depth

theorem balanced_nextPacked {decoder : Decoder} (balanced : decoder.bits.Balanced)
    (packet : Packet) : (decoder.nextPacked packet).2.bits.Balanced := by
  unfold nextPacked
  split
  · exact balanced.take decoder.depth
  · exact balanced
  · exact balanced_nextPacket balanced

theorem balanced_next {decoder : Decoder} (balanced : decoder.bits.Balanced) :
    decoder.next.2.bits.Balanced := by
  unfold next
  split
  · exact balanced
  · exact balanced_nextLiteral balanced _
  · exact balanced_nextPacked balanced _

theorem depth_nextPacket (decoder : Decoder) : decoder.nextPacket.2.depth = decoder.depth := by
  unfold nextPacket
  simp only
  split <;> rfl

theorem depth_next (decoder : Decoder) : decoder.next.2.depth = decoder.depth := by
  unfold next
  split
  · rfl
  · rename_i remaining _
    cases remaining with
    | zero => rfl
    | succ remaining =>
        rw [nextLiteral]
        split <;> rfl
  · unfold nextPacked
    split
    · rfl
    · rfl
    · exact depth_nextPacket decoder

theorem clampDepth_range (depth : Nat) : 1 ≤ clampDepth depth ∧ clampDepth depth ≤ 4 := by
  unfold clampDepth
  split
  · decide
  · split <;> omega

/-- **Every decoder of a line is balanced**, and its pixels have one to four
bits. -/
theorem Reaches.balanced {bytes : List UInt8} {depth : Nat} {literal : Bool} {decoder : Decoder}
    (reached : Reaches (Decoder.start bytes depth literal) decoder) :
    decoder.bits.Balanced ∧ 1 ≤ decoder.depth ∧ decoder.depth ≤ 4 := by
  induction reached with
  | start => exact ⟨Bits.balanced_ofBytes bytes, clampDepth_range depth⟩
  | next _ recurse =>
      rw [depth_next]
      exact ⟨balanced_next recurse.1, recurse.2⟩

/-- A line gives no more pixels than its weight. -/
theorem length_drainOnto_le (taken : List UInt8) (decoder : Decoder) :
    (decoder.drainOnto taken).1.length ≤ taken.length + decoder.weight := by
  induction taken, decoder using drainOnto.induct with
  | case1 taken decoder ended given =>
      rw [drainOnto, given, List.length_reverse]
      exact Nat.le_add_right _ _
  | case2 taken decoder pixel rest given recurse =>
      have lowered := @weight_of_next decoder pixel (by rw [given])
      have further : rest.weight < decoder.weight := by rwa [given] at lowered
      rw [drainOnto, given]
      rw [List.length_cons] at recurse
      exact Nat.le_trans recurse (by omega)

end Decoder

/-- **A line gives at most eighteen pixels for each of its bits.** -/
theorem length_pixels_le (bytes : List UInt8) (depth : Nat) (literal : Bool) :
    (pixels bytes depth literal).length ≤ 18 * (8 * bytes.length) := by
  have bound := Decoder.length_drainOnto_le [] (Decoder.start bytes depth literal)
  have weight : (Decoder.start bytes depth literal).weight ≤ 18 * (8 * bytes.length) := by
    have counted := Bits.countBits_le bytes.length
    have share : Bits.countBits bytes.length / Decoder.clampDepth depth
        ≤ Bits.countBits bytes.length := Nat.div_le_self _ _
    cases literal <;>
      simp only [Decoder.start, Decoder.weight, Decoder.pending, Bits.ofBytes, Packet.pending,
        if_true, Bool.false_eq_true, if_false] <;> omega
  simp only [List.length_nil, Nat.zero_add] at bound
  exact Nat.le_trans bound weight

end LynxSuzy.Line
