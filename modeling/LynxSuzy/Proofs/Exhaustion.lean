import LynxSuzy.Proofs.Decoding

/-!
Contract: how much a line can give, whatever its bytes are.

Owns: the range of the pixels; how many of them so many bits can give at most, in
either format; and the search for a pixel as it is made, which begins anew behind
the head of a packet and does so at most once.

Does **not** own: which pixels a line gives (`Proofs.Decoding`).
-/

set_option autoImplicit false

namespace LynxSuzy.Line

/-! ## Room for pixels -/

/-- The pixels that the packets in so many bits give at most. The head of a packet
takes five bits and promises up to sixteen pixels. Behind a kind with fewer than
four bits left the count reads as zero, so the last bits can be the heads of
packets of one pixel each. -/
def room (left : Nat) : Nat :=
  16 * (left / 5) + left % 5

theorem room_le {fewer more : Nat} (inside : fewer ≤ more) : room fewer ≤ room more := by
  unfold room
  omega

theorem room_lt {fewer more : Nat} (inside : fewer < more) : room fewer < room more := by
  unfold room
  omega

theorem room_add_five (left : Nat) : room (left + 5) = room left + 16 := by
  unfold room
  omega

namespace Bits

theorem take_lt (bits : Bits) {wanted : Nat} (narrow : wanted < 32) :
    (bits.take wanted).1.toNat < 2 ^ wanted := by
  unfold take
  split
  · exact Nat.two_pow_pos wanted
  · rw [UInt32.toNat_toUInt8, toNat_and_mask _ narrow]
    exact Nat.lt_of_le_of_lt (Nat.mod_le _ _) (Nat.mod_lt _ (Nat.two_pow_pos wanted))

/-- **The head of a packet is read from bits that had room for the packet.** -/
theorem room_of_head (bits : Bits)
    (goesOn : ¬((bits.take 1).1 = 0 ∧ ((bits.take 1).2.take 4).1 = 0)) :
    ((bits.take 1).2.take 4).1.toNat + room ((bits.take 1).2.take 4).2.left < room bits.left := by
  have begun : 1 ≤ bits.left := by
    by_contra empty
    have short : bits.left < 1 := Nat.lt_of_not_le empty
    have shorter : bits.left < 4 := Nat.lt_of_lt_of_le short (by decide)
    rw [take_of_short _ short, take_of_short _ shorter] at goesOn
    exact goesOn ⟨rfl, rfl⟩
  have kindLeft := bits.take_left begun
  by_cases counted : 4 ≤ (bits.take 1).2.left
  · have countLeft := (bits.take 1).2.take_left counted
    have countSmall : ((bits.take 1).2.take 4).1.toNat < 2 ^ 4 := take_lt _ (by decide)
    have more : room (((bits.take 1).2.take 4).2.left + 5) ≤ room bits.left :=
      room_le (by omega)
    rw [room_add_five] at more
    omega
  · -- The count is refused and reads as zero, so it was the kind that took a bit.
    rw [take_of_short _ (Nat.lt_of_not_le counted)]
    have fewer : room (bits.take 1).2.left < room bits.left := room_lt (by omega)
    exact Nat.lt_of_le_of_lt (Nat.le_of_eq (Nat.zero_add _)) fewer

end Bits

namespace Decoder

def capacity (decoder : Decoder) : Nat :=
  match decoder.stage with
  | .finished => 0
  | .literal remaining => remaining
  | .packed packet => packet.pending + room decoder.bits.left

section Steps

variable {decoder : Decoder} {pixel : UInt8}

theorem capacity_of_nextPacket (given : decoder.nextPacket.1 = some pixel) :
    decoder.nextPacket.2.capacity < room decoder.bits.left := by
  by_cases marked : (decoder.bits.take 1).1 = 0 ∧ ((decoder.bits.take 1).2.take 4).1 = 0
  · simp only [nextPacket, if_pos marked, reduceCtorEq] at given
  · have head := decoder.bits.room_of_head marked
    have pixelLeft := room_le
      (Bits.take_left_le ((decoder.bits.take 1).2.take 4).2 decoder.depth)
    simp only [nextPacket, if_neg marked]
    split
    · exact Nat.lt_of_le_of_lt (Nat.add_le_add_left pixelLeft _) head
    · exact Nat.lt_of_le_of_lt (Nat.add_le_add_left pixelLeft _) head

theorem capacity_of_nextLiteral {remaining : Nat}
    (given : (decoder.nextLiteral remaining).1 = some pixel) :
    (decoder.nextLiteral remaining).2.capacity < remaining := by
  cases remaining with
  | zero => cases given
  | succ remaining =>
      by_cases padding : remaining = 0 ∧ (decoder.bits.take decoder.depth).1 = 0
      · simp only [nextLiteral, if_pos padding, reduceCtorEq] at given
      · simp only [nextLiteral, if_neg padding]
        exact Nat.lt_succ_self remaining

theorem capacity_of_nextPacked {packet : Packet}
    (given : (decoder.nextPacked packet).1 = some pixel) :
    (decoder.nextPacked packet).2.capacity < packet.pending + room decoder.bits.left := by
  cases left : packet.pending with
  | zero =>
      rw [nextPacked_of_done left] at given ⊢
      exact Nat.lt_of_lt_of_le (capacity_of_nextPacket given) (Nat.le_add_left _ _)
  | succ more =>
      have fewer := room_le (Bits.take_left_le decoder.bits decoder.depth)
      rcases packet with _ | _ | _ <;> cases left
      · exact Nat.add_lt_add_of_lt_of_le (Nat.lt_succ_self more) fewer
      · exact Nat.add_lt_add_right (Nat.lt_succ_self more) _

/-- **Every pixel lowers the capacity.** -/
theorem capacity_of_next (given : decoder.next.1 = some pixel) :
    decoder.next.2.capacity < decoder.capacity := by
  unfold next at given ⊢
  unfold capacity
  cases inStage : decoder.stage with
  | finished =>
      rw [inStage] at given
      cases given
  | literal remaining =>
      rw [inStage] at given
      exact capacity_of_nextLiteral given
  | packed packet =>
      rw [inStage] at given
      exact capacity_of_nextPacked given

end Steps

/-- **A line gives no more pixels than there was room for.** -/
theorem length_toList_le (bound : Nat) :
    ∀ decoder : Decoder, decoder.capacity ≤ bound → decoder.toList.length ≤ bound := by
  induction bound with
  | zero =>
      intro decoder full
      cases given : decoder.next.1 with
      | none =>
          rw [toList_of_none given]
          exact Nat.le_refl _
      | some pixel =>
          have lowered := capacity_of_next given
          omega
  | succ bound recurse =>
      intro decoder fits
      cases given : decoder.next.1 with
      | none =>
          rw [toList_of_none given]
          exact Nat.zero_le _
      | some pixel =>
          have lowered := capacity_of_next given
          rw [toList_of_some given, List.length_cons]
          exact Nat.succ_le_succ (recurse _ (by omega))

theorem capacity_start_literal (bytes : List UInt8) (depth : Nat) :
    (start bytes depth true).capacity ≤ 8 * bytes.length / clampDepth depth :=
  Nat.div_le_div_right (Bits.countBits_le bytes.length)

theorem capacity_start_packed (bytes : List UInt8) (depth : Nat) :
    (start bytes depth false).capacity ≤ 16 * (8 * bytes.length / 5) + 4 := by
  have whole : (start bytes depth false).capacity
      = 0 + room (Bits.countBits bytes.length) := rfl
  have counted := room_le (Bits.countBits_le bytes.length)
  rw [whole]
  unfold room at counted ⊢
  omega

/-! ## Range of pixels -/

/-- A decoder of pixels with so many bits, which holds none that is larger. -/
structure Fits (decoder : Decoder) (depth : Nat) : Prop where
  deep : decoder.depth = depth
  held : ∀ pixel remaining, decoder.stage = .packed (.repeated pixel remaining) →
    pixel.toNat < 2 ^ depth

section Range

variable {decoder : Decoder} {depth : Nat}

theorem fits_nextPacket (fits : decoder.Fits depth) (narrow : depth < 32) :
    decoder.nextPacket.2.Fits depth
      ∧ ∀ pixel, decoder.nextPacket.1 = some pixel → pixel.toNat < 2 ^ depth := by
  have read := Bits.take_lt ((decoder.bits.take 1).2.take 4).2 narrow
  rw [← fits.deep] at read ⊢
  unfold nextPacket
  simp only
  split
  · exact ⟨⟨rfl, fun _ _ finished => by cases finished⟩, fun _ ended => by cases ended⟩
  · refine ⟨⟨rfl, ?_⟩, fun _ given => by cases given; exact read⟩
    intro pixel remaining inStage
    split at inStage
    · cases inStage
      exact read
    · cases inStage

theorem fits_nextLiteral (fits : decoder.Fits depth) (narrow : depth < 32) (remaining : Nat) :
    (decoder.nextLiteral remaining).2.Fits depth
      ∧ ∀ pixel, (decoder.nextLiteral remaining).1 = some pixel → pixel.toNat < 2 ^ depth := by
  have read := Bits.take_lt decoder.bits narrow
  rw [← fits.deep] at read ⊢
  cases remaining with
  | zero => exact ⟨⟨rfl, fun _ _ finished => by cases finished⟩, fun _ ended => by cases ended⟩
  | succ remaining =>
      rw [nextLiteral]
      split
      · exact ⟨⟨rfl, fun _ _ finished => by cases finished⟩, fun _ ended => by cases ended⟩
      · exact ⟨⟨rfl, fun _ _ inLine => by cases inLine⟩, fun _ given => by cases given; exact read⟩

theorem fits_nextPacked (fits : decoder.Fits depth) (narrow : depth < 32) {packet : Packet}
    (inStage : decoder.stage = .packed packet) :
    (decoder.nextPacked packet).2.Fits depth
      ∧ ∀ pixel, (decoder.nextPacked packet).1 = some pixel → pixel.toNat < 2 ^ depth := by
  have read := Bits.take_lt decoder.bits narrow
  unfold nextPacked
  split
  · rw [← fits.deep] at read ⊢
    exact ⟨⟨rfl, fun _ _ inLiteral => by cases inLiteral⟩, fun _ given => by cases given; exact read⟩
  · rename_i repeated remaining
    have small := fits.held repeated _ inStage
    exact ⟨⟨fits.deep, fun _ _ further => by cases further; exact small⟩,
      fun _ given => by cases given; exact small⟩
  · exact fits_nextPacket fits narrow

/-- **A step keeps the range**, and so its pixel is in it. -/
theorem fits_next (fits : decoder.Fits depth) (narrow : depth < 32) :
    decoder.next.2.Fits depth
      ∧ ∀ pixel, decoder.next.1 = some pixel → pixel.toNat < 2 ^ depth := by
  unfold next
  split
  · exact ⟨fits, fun _ ended => by cases ended⟩
  · exact fits_nextLiteral fits narrow _
  · rename_i packet inStage
    exact fits_nextPacked fits narrow inStage

theorem answer_lt (narrow : depth < 32) (count : Nat) :
    ∀ decoder : Decoder, decoder.Fits depth →
      ∀ pixel, decoder.answer count = some pixel → pixel.toNat < 2 ^ depth := by
  induction count with
  | zero => exact fun decoder fits => (fits_next fits narrow).2
  | succ count recurse => exact fun decoder fits => recurse _ (fits_next fits narrow).1

end Range

/-! ## The search for a pixel -/

/-- The decoder behind the head of a packet: its kind, its count and the pixel that
it repeats, if it does. The mark of the end finishes the line. -/
def opened (decoder : Decoder) : Decoder :=
  let kind := decoder.bits.take 1
  let count := kind.2.take 4
  if kind.1 ≠ 0 then
    { decoder with bits := count.2, stage := .packed (.literal (count.1.toNat + 1)) }
  else if count.1 = 0 then { decoder with bits := count.2, stage := .finished }
  else
    let pixel := count.2.take decoder.depth
    { decoder with
      bits := pixel.2
      stage := .packed (.repeated pixel.1 (count.1.toNat + 1)) }

/-- The next pixel, sought by a search that reads the head of a packet and begins
anew behind it, but no more often than it may. -/
def seek : Nat → Decoder → Option (Option UInt8 × Decoder)
  | renewals, decoder =>
      match decoder.stage with
      | .finished => some (none, decoder)
      | .literal remaining => some (decoder.nextLiteral remaining)
      | .packed packet =>
          if packet.pending ≠ 0 then some (decoder.nextPacked packet)
          else if decoder.opened.stage = .finished then some (none, decoder.opened)
          else
            match renewals with
            | 0 => none
            | renewals + 1 => seek renewals decoder.opened

section Search

variable {decoder : Decoder}

theorem seek_of_pending {packet : Packet} (inStage : decoder.stage = .packed packet)
    (left : packet.pending ≠ 0) (renewals : Nat) :
    decoder.seek renewals = some (decoder.nextPacked packet) := by
  cases renewals <;> simp only [seek, inStage, if_pos left]

/-- **Behind the head of a packet the line has ended or a pixel is in hand**, which
is the one that the packet gives first. -/
theorem opened_cases (decoder : Decoder) :
    (decoder.opened.stage = .finished ∧ decoder.nextPacket = (none, decoder.opened))
      ∨ ∃ packet, decoder.opened.stage = .packed packet ∧ packet.pending ≠ 0
          ∧ decoder.opened.nextPacked packet = decoder.nextPacket := by
  unfold opened nextPacket
  by_cases kind : (decoder.bits.take 1).1 = 0
  · by_cases count : ((decoder.bits.take 1).2.take 4).1 = 0
    · left
      simp only [kind, count, ne_eq, not_true, if_false, and_self, if_true]
    · right
      simp only [kind, count, ne_eq, not_true, if_false, and_false, if_true]
      exact ⟨_, rfl, Nat.succ_ne_zero _, rfl⟩
  · right
    simp only [kind, ne_eq, not_false_eq_true, if_true, false_and, if_false]
    exact ⟨_, rfl, Nat.succ_ne_zero _, rfl⟩

theorem seek_of_opened {packet : Packet} (inStage : decoder.stage = .packed packet)
    (done : packet.pending = 0) (goesOn : decoder.opened.stage ≠ .finished) (renewals : Nat) :
    decoder.seek (renewals + 1) = decoder.opened.seek renewals := by
  rw [seek, inStage]
  simp only [done, ne_eq, not_true, if_false, goesOn]

theorem seek_of_ended {packet : Packet} (inStage : decoder.stage = .packed packet)
    (done : packet.pending = 0) (ended : decoder.opened.stage = .finished) (renewals : Nat) :
    decoder.seek renewals = some (none, decoder.opened) := by
  cases renewals <;> simp only [seek, inStage, done, ne_eq, not_true, if_false, ended, if_true]

/-- **A search that may begin anew once finds the next pixel** or the end. -/
theorem seek_one (decoder : Decoder) : decoder.seek 1 = some decoder.next := by
  cases inStage : decoder.stage with
  | finished => simp only [seek, next, inStage]
  | literal remaining => simp only [seek, next, inStage]
  | packed packet =>
      have asked : decoder.next = decoder.nextPacked packet := by rw [next, inStage]
      by_cases left : packet.pending = 0
      · rw [asked, nextPacked_of_done left]
        rcases decoder.opened_cases with ⟨ended, nothing⟩ | ⟨further, opens, inHand, given⟩
        · rw [seek_of_ended inStage left ended, nothing]
        · have goesOn : decoder.opened.stage ≠ .finished := by
            rw [opens]
            exact Stage.noConfusion
          rw [seek_of_opened inStage left goesOn, seek_of_pending opens inHand, given]
      · rw [asked, seek_of_pending inStage left]

end Search

end Decoder

/-! ## Lines of any bytes -/

/-- **Decoding always ends.** Whatever the bytes, the format and the depth, the
answers to requests are a list of pixels and nothing behind them. No pixel has more
bits than the depth, which is taken as one to four. There are no more of them in a
literal line than it has whole fields, and in a packed line than sixteen for each
five bits and four. On the way the search for a pixel begins anew at most once, and
what has ended stays ended. -/
theorem decoding_ends (bytes : List UInt8) (depth : Nat) (literal : Bool) :
    let first := Decoder.start bytes depth literal
    let given := pixels bytes depth literal
    (∀ count, first.answer count = given[count]?)
      ∧ (∀ pixel ∈ given, pixel.toNat < 2 ^ Decoder.clampDepth depth)
      ∧ (literal = true → given.length ≤ 8 * bytes.length / Decoder.clampDepth depth)
      ∧ (literal = false → given.length ≤ 16 * (8 * bytes.length / 5) + 4)
      ∧ ∀ decoder, first.Reaches decoder →
          decoder.seek 1 = some decoder.next
            ∧ (decoder.next.1 = none → ∀ count, decoder.next.2.answer count = none) := by
  intro first given
  have answers : ∀ count, first.answer count = given[count]? := fun count =>
    first.answer_eq count
  have narrow : Decoder.clampDepth depth < 32 := by
    have range := Decoder.clampDepth_range depth
    omega
  have fits : first.Fits (Decoder.clampDepth depth) := by
    refine ⟨rfl, ?_⟩
    intro pixel remaining inStage
    cases literal <;> cases inStage
  refine ⟨answers, ?_, ?_, ?_, ?_⟩
  · intro pixel member
    obtain ⟨count, place⟩ := List.mem_iff_getElem?.1 member
    exact Decoder.answer_lt narrow count first fits pixel ((answers count).trans place)
  · rintro rfl
    exact Decoder.length_toList_le _ _ (Decoder.capacity_start_literal bytes depth)
  · rintro rfl
    exact Decoder.length_toList_le _ _ (Decoder.capacity_start_packed bytes depth)
  · intro decoder _
    refine ⟨decoder.seek_one, ?_⟩
    intro ended count
    have stage := Decoder.stage_of_none ended
    rw [Decoder.answer_eq, Decoder.toList_of_none (by rw [Decoder.next_of_finished stage])]
    rfl

/-- Eight set bits hold the head of one packet of sixteen pixels, for which no bits
are left, and three heads of packets of one pixel each. In a literal line the byte 10
holds one pixel and a zero that fills it up. -/
theorem set_bits_give_nineteen :
    let first := Decoder.start [0xFF] 4 false
    let given := pixels [0xFF] 4 false
    given.length = 19 ∧ 19 ≤ 16 * (8 * 1 / 5) + 4
      ∧ 0 ∈ given ∧ (0 : UInt8).toNat < 2 ^ 4
      ∧ first.answer 19 = none ∧ first.seek 0 = none ∧ first.seek 1 = some first.next
      ∧ pixels [0x10] 4 true = [1] ∧ 1 ≤ 8 * 1 / 4 := by
  intro first given
  obtain ⟨answers, range, _, few, steps⟩ := decoding_ends [0xFF] 4 false
  obtain ⟨_, _, fewToo, _⟩ := decoding_ends [0x10] 4 true
  have length : given.length = 19 := by decide +kernel
  have zero : 0 ∈ given := by decide +kernel
  have single : pixels [0x10] 4 true = [1] := by decide +kernel
  refine ⟨length, length ▸ few rfl, zero, range 0 zero, ?_, by decide +kernel,
    (steps _ .start).1, single, ?_⟩
  · rw [answers, List.getElem?_eq_none (Nat.le_of_eq length)]
  · have most := fewToo rfl
    rwa [single] at most

end LynxSuzy.Line
