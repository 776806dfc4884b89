import LynxSuzy.Line.Bits

/-!
Contract: the pixels of one sprite line.

Owns: the two line formats. A literal line is a row of equally wide indices up
to the last whole one, where a final zero only fills the line up and is left
out. A packed line is a row of packets, each a kind bit, a four-bit count less
one and then the pixels; a repeat packet with a count of zero ends the line.

Does **not** own: the pens that the indices select, or how wide a pixel is
drawn (`Sprite.Row`).

Main statements: `weight_of_next`, by which decoding always ends, and
`next_of_finished`, by which a line that has ended stays ended.
-/

set_option autoImplicit false

namespace LynxSuzy.Line

/-- What is left of the packet being read. -/
inductive Packet where
  /-- Between packets. -/
  | none
  /-- This many pixels still stand in the line. -/
  | literal (remaining : Nat)
  /-- One pixel is still to be repeated this many times. -/
  | repeated (pixel : UInt8) (remaining : Nat)
  deriving DecidableEq, Repr

/-- Pixels the packet in hand can still give. -/
def Packet.pending : Packet → Nat
  | .none => 0
  | .literal remaining => remaining
  | .repeated _ remaining => remaining

inductive Stage where
  /-- A literal line with this many indices still to read. -/
  | literal (remaining : Nat)
  | packed (packet : Packet)
  | finished
  deriving DecidableEq, Repr

structure Decoder where
  bits : Bits
  /-- Bits in a pixel, one to four. -/
  depth : Nat
  stage : Stage
  deriving DecidableEq

namespace Decoder

/-- The bits in a pixel, brought into range. -/
def clampDepth (depth : Nat) : Nat :=
  if depth < 1 then 1 else if 4 < depth then 4 else depth

/-- The start of a line of the given format. -/
def start (bytes : List UInt8) (depth : Nat) (literal : Bool) : Decoder :=
  let bits := Bits.ofBytes bytes
  let depth := clampDepth depth
  ⟨bits, depth, if literal then .literal (bits.left / depth) else .packed .none⟩

def nextLiteral (decoder : Decoder) : Nat → Option UInt8 × Decoder
  | 0 => (Option.none, { decoder with stage := .finished })
  | remaining + 1 =>
      let taken := decoder.bits.take decoder.depth
      if remaining = 0 ∧ taken.1 = 0 then
        (Option.none, { decoder with bits := taken.2, stage := .finished })
      else (some taken.1, { decoder with bits := taken.2, stage := .literal remaining })

/-- The first pixel of the next packet of a packed line. -/
def nextPacket (decoder : Decoder) : Option UInt8 × Decoder :=
  let kind := decoder.bits.take 1
  let count := kind.2.take 4
  if kind.1 = 0 ∧ count.1 = 0 then
    (Option.none, { decoder with bits := count.2, stage := .finished })
  else
    let pixel := count.2.take decoder.depth
    let packet := if kind.1 = 0 then .repeated pixel.1 count.1.toNat else .literal count.1.toNat
    (some pixel.1, { decoder with bits := pixel.2, stage := .packed packet })

def nextPacked (decoder : Decoder) : Packet → Option UInt8 × Decoder
  | .literal (remaining + 1) =>
      let taken := decoder.bits.take decoder.depth
      (some taken.1, { decoder with bits := taken.2, stage := .packed (.literal remaining) })
  | .repeated pixel (remaining + 1) =>
      (some pixel, { decoder with stage := .packed (.repeated pixel remaining) })
  | _ => decoder.nextPacket

/-- The next pixel, or nothing once the line has ended. -/
def next (decoder : Decoder) : Option UInt8 × Decoder :=
  match decoder.stage with
  | .finished => (Option.none, decoder)
  | .literal remaining => decoder.nextLiteral remaining
  | .packed packet => decoder.nextPacked packet

/-- A line that has ended stays ended. -/
theorem next_of_finished {decoder : Decoder} (ended : decoder.stage = .finished) :
    decoder.next = (Option.none, decoder) := by
  simp [next, ended]

/-! ## Decoding ends

Every pixel either lowers the count of the packet or line it belongs to, or
starts a packet and so takes at least one bit. A packet has at most sixteen
pixels, so weighing each bit with seventeen makes every step a descent. -/

/-- Pixels that the stage in hand can still give without reading a new packet. -/
def pending (decoder : Decoder) : Nat :=
  match decoder.stage with
  | .finished => 0
  | .literal remaining => remaining
  | .packed packet => packet.pending

/-- An upper bound on what a line can still give. -/
def weight (decoder : Decoder) : Nat :=
  17 * decoder.bits.left + decoder.pending

/-- A four-bit count is below sixteen. -/
theorem take_four_lt (bits : Bits) : (bits.take 4).1.toNat < 16 := by
  unfold Bits.take
  split
  · simp
  · simp only [UInt32.toNat_toUInt8, UInt32.toNat_and]
    have mask : ((1 : UInt32) <<< UInt32.ofNat 4 - 1).toNat = 15 := by decide
    rw [mask]
    have small := Nat.and_le_right (n := ((Bits.refill 4 bits.rest bits.window bits.held).2.1 >>>
      UInt32.ofNat ((Bits.refill 4 bits.rest bits.window bits.held).2.2 - 4)).toNat) (m := 15)
    omega

/-- A bit that reads as one has been taken. -/
theorem take_one_left {bits : Bits} (set : (bits.take 1).1 ≠ 0) :
    (bits.take 1).2.left + 1 = bits.left := by
  by_cases short : bits.left < 1
  · exact absurd (by rw [Bits.take_of_short bits short]) set
  · rw [Bits.take_left bits (by omega)]
    omega

/-- A count that is not zero has been taken. -/
theorem take_four_left {bits : Bits} (set : (bits.take 4).1 ≠ 0) :
    (bits.take 4).2.left + 4 = bits.left := by
  by_cases short : bits.left < 4
  · exact absurd (by rw [Bits.take_of_short bits short]) set
  · rw [Bits.take_left bits (by omega)]
    omega

/-- **A packet that is not the end of its line takes at least a bit and promises
fewer than sixteen further pixels.** -/
theorem weight_of_nextPacket {decoder : Decoder} {pixel : UInt8}
    (given : decoder.nextPacket.1 = some pixel) :
    decoder.nextPacket.2.weight < 17 * decoder.bits.left := by
  unfold nextPacket at given ⊢
  simp only at given ⊢
  split at given
  · simp at given
  · rename_i goesOn
    rw [if_neg goesOn]
    have countSmall := take_four_lt (decoder.bits.take 1).2
    have kindLeft := Bits.take_left_le decoder.bits 1
    have countLeft := Bits.take_left_le (decoder.bits.take 1).2 4
    have pixelLeft := Bits.take_left_le ((decoder.bits.take 1).2.take 4).2 decoder.depth
    by_cases kind : (decoder.bits.take 1).1 = 0
    · have counted := take_four_left (fun zero => goesOn ⟨kind, zero⟩)
      simp only [weight, pending, kind, if_true, Packet.pending]
      omega
    · have counted := take_one_left kind
      simp only [weight, pending, kind, if_false, Packet.pending]
      omega

/-- **Every pixel lowers the weight**, so a line gives finitely many. -/
theorem weight_of_next {decoder : Decoder} {pixel : UInt8}
    (given : decoder.next.1 = some pixel) : decoder.next.2.weight < decoder.weight := by
  unfold next at given ⊢
  split at given
  · simp at given
  · rename_i remaining inStage
    cases remaining with
    | zero => simp [nextLiteral] at given
    | succ remaining =>
        have taken := Bits.take_left_le decoder.bits decoder.depth
        simp only [nextLiteral] at given ⊢
        split at given
        · simp at given
        · rename_i goesOn
          rw [if_neg goesOn]
          simp only [weight, pending, inStage]
          omega
  · rename_i packet inStage
    unfold nextPacked at given ⊢
    split
    · rename_i remaining
      have taken := Bits.take_left_le decoder.bits decoder.depth
      simp only [weight, pending, inStage, Packet.pending]
      omega
    · simp only [weight, pending, inStage, Packet.pending]
      omega
    · rename_i notLiteral notRepeated
      have lowered : decoder.nextPacket.2.weight < 17 * decoder.bits.left := by
        apply @weight_of_nextPacket decoder pixel
        split at given
        · exact absurd rfl (notLiteral _)
        · exact absurd rfl (notRepeated _ _)
        · exact given
      simp only [weight] at lowered ⊢
      omega

/-- The pixels still to come, in front of those already taken (latest first),
and the decoder once they are exhausted. -/
def drainOnto (taken : List UInt8) (decoder : Decoder) : List UInt8 × Decoder :=
  match _given : decoder.next with
  | (Option.none, ended) => (taken.reverse, ended)
  | (some pixel, rest) => drainOnto (pixel :: taken) rest
termination_by decoder.weight
decreasing_by
  have lowered := @weight_of_next decoder pixel (by rw [_given])
  rwa [_given] at lowered

/-- All pixels of a line and the decoder that has ended with them. -/
def drain (decoder : Decoder) : List UInt8 × Decoder :=
  drainOnto [] decoder

def toList (decoder : Decoder) : List UInt8 :=
  decoder.drain.1

end Decoder

/-- The pixels of a line of the given format. -/
def pixels (bytes : List UInt8) (depth : Nat) (literal : Bool) : List UInt8 :=
  (Decoder.start bytes depth literal).toList

end LynxSuzy.Line
