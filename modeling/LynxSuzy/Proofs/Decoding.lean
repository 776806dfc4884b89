import LynxSuzy.Proofs.BitString

/-!
Contract: what the bits of a line mean.

Owns: the answers to requests for pixels, which are the pixels of the line and
nothing behind them; a literal line as the fields of its bits; and a packed line
as the packets that are written in it.

Does **not** own: what a line gives that breaks off within a packet.
-/

set_option autoImplicit false

namespace LynxSuzy.Line

namespace Decoder

/-! ## Requests for pixels -/

def answer (decoder : Decoder) : Nat → Option UInt8
  | 0 => decoder.next.1
  | count + 1 => decoder.next.2.answer count

theorem drainOnto_append (taken further : List UInt8) (decoder : Decoder) :
    (decoder.drainOnto (taken ++ further)).1
      = further.reverse ++ (decoder.drainOnto taken).1 := by
  induction taken, decoder using drainOnto.induct with
  | case1 taken decoder ended given =>
      rw [drainOnto, given, drainOnto, given, List.reverse_append]
  | case2 taken decoder pixel rest given recurse =>
      rw [drainOnto, given, drainOnto, given]
      exact recurse

section Steps

variable {decoder : Decoder}

theorem toList_of_none (ended : decoder.next.1 = none) : decoder.toList = [] := by
  rw [toList, drain, drainOnto]
  split
  · rfl
  · rename_i given
    rw [given] at ended
    cases ended

theorem toList_of_some {pixel : UInt8} (given : decoder.next.1 = some pixel) :
    decoder.toList = pixel :: decoder.next.2.toList := by
  rw [toList, drain, drainOnto]
  split
  · rename_i ended
    rw [ended] at given
    cases given
  · rename_i first rest found
    rw [found] at given ⊢
    obtain rfl := Option.some.inj given
    exact drainOnto_append [] [first] rest

theorem nextPacked_of_done {packet : Packet} (done : packet.pending = 0) :
    decoder.nextPacked packet = decoder.nextPacket := by
  cases packet with
  | none => rfl
  | literal remaining =>
      obtain rfl : remaining = 0 := done
      rfl
  | repeated pixel remaining =>
      obtain rfl : remaining = 0 := done
      rfl

theorem stage_nextPacket (ended : decoder.nextPacket.1 = none) :
    decoder.nextPacket.2.stage = .finished := by
  by_cases marked : (decoder.bits.take 1).1 = 0 ∧ ((decoder.bits.take 1).2.take 4).1 = 0
  · simp only [nextPacket, if_pos marked]
  · simp only [nextPacket, if_neg marked, reduceCtorEq] at ended

theorem stage_nextLiteral {remaining : Nat} (ended : (decoder.nextLiteral remaining).1 = none) :
    (decoder.nextLiteral remaining).2.stage = .finished := by
  cases remaining with
  | zero => rfl
  | succ remaining =>
      by_cases padding : remaining = 0 ∧ (decoder.bits.take decoder.depth).1 = 0
      · simp only [nextLiteral, if_pos padding]
      · simp only [nextLiteral, if_neg padding, reduceCtorEq] at ended

/-- Only the end of a line is answered with nothing. -/
theorem stage_of_none (ended : decoder.next.1 = none) : decoder.next.2.stage = .finished := by
  unfold next at ended ⊢
  cases inStage : decoder.stage with
  | finished => exact inStage
  | literal remaining =>
      rw [inStage] at ended
      exact stage_nextLiteral ended
  | packed packet =>
      rw [inStage] at ended
      cases left : packet.pending with
      | zero =>
          dsimp only at ended ⊢
          rw [nextPacked_of_done left] at ended ⊢
          exact stage_nextPacket ended
      | succ more =>
          -- As long as a packet has something left it answers.
          rcases packet with _ | _ | _ <;> cases left <;> cases ended

end Steps

/-- **The answers to requests are the pixels of the line, and nothing ever after.** -/
theorem answer_eq (count : Nat) :
    ∀ decoder : Decoder, decoder.answer count = decoder.toList[count]? := by
  induction count with
  | zero =>
      intro decoder
      cases given : decoder.next.1 with
      | none => rw [answer, given, toList_of_none given]; rfl
      | some pixel => rw [answer, given, toList_of_some given]; rfl
  | succ count recurse =>
      intro decoder
      rw [answer, recurse]
      cases given : decoder.next.1 with
      | none =>
          have stays := next_of_finished (stage_of_none given)
          rw [toList_of_none given, toList_of_none (congrArg Prod.fst stays)]
          rfl
      | some pixel => rw [toList_of_some given]; rfl

end Decoder

/-! ## Literal lines -/

/-- Fields of equal width that stand one after the other at the front of a bit
string. -/
def fields (string : List Bool) (width count : Nat) : List UInt8 :=
  (List.range count).map fun place =>
    UInt8.ofNat (number ((string.drop (place * width)).take width))

def withoutFinalZero (pixels : List UInt8) : List UInt8 :=
  if pixels.getLast? = some 0 then pixels.dropLast else pixels

theorem fields_succ (string : List Bool) (width count : Nat) :
    fields string width (count + 1)
      = UInt8.ofNat (number (string.take width)) :: fields (string.drop width) width count := by
  simp only [fields, List.range_succ_eq_map, List.map_cons, List.map_map, Nat.zero_mul,
    List.drop_zero]
  congr 1
  apply List.map_congr_left
  intro place _
  simp only [Function.comp, List.drop_drop, Nat.succ_mul, Nat.add_comm width]

theorem withoutFinalZero_cons (pixel : UInt8) {pixels : List UInt8} (more : pixels ≠ []) :
    withoutFinalZero (pixel :: pixels) = pixel :: withoutFinalZero pixels := by
  obtain ⟨next, rest, rfl⟩ := List.exists_cons_of_ne_nil more
  simp only [withoutFinalZero, List.getLast?_cons_cons, List.dropLast_cons_cons]
  split <;> rfl

/-- **A literal line gives its fields, without a final zero.** -/
theorem Decoder.toList_of_literal (remaining : Nat) :
    ∀ decoder : Decoder, decoder.stage = .literal remaining → decoder.bits.Balanced →
      decoder.depth < 32 → remaining * decoder.depth ≤ decoder.bits.left →
      decoder.toList = withoutFinalZero (fields decoder.bits.toList decoder.depth remaining) := by
  induction remaining with
  | zero =>
      intro decoder inStage _ _ _
      have ended : decoder.next.1 = none := by rw [next, inStage]; rfl
      rw [toList_of_none ended]
      rfl
  | succ remaining recurse =>
      intro decoder inStage balanced narrow enough
      rw [Nat.succ_mul] at enough
      obtain ⟨answer, left⟩ := balanced.take_spec narrow (by omega : decoder.depth ≤ _)
      have step : decoder.next = decoder.nextLiteral (remaining + 1) := by rw [next, inStage]
      rw [nextLiteral] at step
      rw [fields_succ, ← answer]
      by_cases padding : remaining = 0 ∧ (decoder.bits.take decoder.depth).1 = 0
      · rw [if_pos padding] at step
        rw [toList_of_none (by rw [step]), padding.1, padding.2]
        rfl
      · rw [if_neg padding] at step
        have rest : remaining * decoder.depth ≤ (decoder.bits.take decoder.depth).2.left := by
          rw [Bits.take_left _ (by omega)]
          omega
        have after := recurse decoder.next.2 (by rw [step]) (by rw [step]; exact balanced.take _)
          (by rwa [step]) (by rwa [step])
        rw [toList_of_some (by rw [step]), after, step]
        dsimp only
        rw [left]
        by_cases last : remaining = 0
        · subst last
          have kept : (decoder.bits.take decoder.depth).1 ≠ 0 :=
            fun zero => padding ⟨rfl, zero⟩
          simp [fields, withoutFinalZero, kept]
        · rw [withoutFinalZero_cons]
          simpa [fields] using last

theorem Decoder.clampDepth_of_range {depth : Nat} (positive : 1 ≤ depth) (narrow : depth ≤ 4) :
    clampDepth depth = depth := by
  rw [clampDepth, if_neg (by omega), if_neg (by omega)]

theorem fields_take {width count most : Nat} (inside : count * width ≤ most)
    (string : List Bool) : fields (string.take most) width count = fields string width count := by
  apply List.map_congr_left
  intro place among
  have before : (place + 1) * width ≤ count * width :=
    Nat.mul_le_mul_right width (List.mem_range.1 among)
  rw [Nat.succ_mul] at before
  have whole : width ≤ most - place * width := by omega
  rw [List.drop_take, List.take_take, Nat.min_eq_left whole]

theorem toList_start_literal (bytes : List UInt8) {depth : Nat} (positive : 1 ≤ depth)
    (narrow : depth ≤ 4) :
    (Decoder.start bytes depth true).toList = withoutFinalZero
      (fields (bitString bytes) depth (Bits.countBits bytes.length / depth)) := by
  have start : Decoder.start bytes depth true
      = ⟨Bits.ofBytes bytes, depth, .literal (Bits.countBits bytes.length / depth)⟩ := by
    rw [Decoder.start, Decoder.clampDepth_of_range positive narrow]
    rfl
  have inside := Nat.div_mul_le_self (Bits.countBits bytes.length) depth
  rw [start, Decoder.toList_of_literal _ _ rfl (Bits.balanced_ofBytes bytes)
    (Nat.lt_of_le_of_lt narrow (by decide)) inside]
  dsimp only
  rw [toList_ofBytes, countedBits, fields_take inside]

/-- **A literal line gives the fields of its bits.** It has as many as fit into the bits
that are counted, which are all bits of fewer than 2 ^ 29 bytes; bits that are left over
are not looked at, and no zero is left out but one in the last field. Behind them every
request is answered with nothing. -/
theorem literal_line_gives_its_fields (bytes : List UInt8) (depth : Nat) (positive : 1 ≤ depth)
    (narrow : depth ≤ 4) :
    let whole := Bits.countBits bytes.length / depth
    let expected := withoutFinalZero (fields (bitString bytes) depth whole)
    (bytes.length < 2 ^ 29 → whole = 8 * bytes.length / depth)
      ∧ pixels bytes depth true = expected
      ∧ ∀ count, (Decoder.start bytes depth true).answer count = expected[count]? := by
  intro whole expected
  have given : (Decoder.start bytes depth true).toList = expected :=
    toList_start_literal bytes positive narrow
  refine ⟨fun few => ?_, given, fun count => by rw [Decoder.answer_eq, given]⟩
  exact congrArg (· / depth) (Bits.countBits_of_lt few)

/-- At three bits a pixel the byte 10101111 holds two pixels and two bits that are
not looked at; the byte 10100000 holds one, and a zero that fills it up. -/
theorem literal_line_of_three_bits :
    pixels [0xAF] 3 true = [5, 3] ∧ pixels [0xA0] 3 true = [5]
      ∧ (Decoder.start [0xA0] 3 true).answer 1 = none := by
  obtain ⟨_, loose, _⟩ := literal_line_gives_its_fields [0xAF] 3 (by decide) (by decide)
  obtain ⟨_, filled, answers⟩ := literal_line_gives_its_fields [0xA0] 3 (by decide) (by decide)
  refine ⟨loose.trans (by decide), filled.trans (by decide), (answers 1).trans (by decide)⟩

/-! A line of set bits shows what becomes of bits that are not counted. -/

theorem bitString_set (size : Nat) :
    bitString (List.replicate size 0xFF) = List.replicate (8 * size) true := by
  induction size with
  | zero => rfl
  | succ size recurse =>
      have first : binary 8 (0xFF : UInt8).toNat = List.replicate 8 true := by decide
      simp only [bitString] at recurse
      rw [bitString, List.replicate_succ, List.flatMap_cons, recurse, first,
        List.replicate_append_replicate, Nat.mul_succ, Nat.add_comm]

theorem fields_set {total count : Nat} (inside : count ≤ total) :
    fields (List.replicate total true) 1 count = List.replicate count 1 := by
  rw [List.eq_replicate_iff]
  refine ⟨by simp [fields], ?_⟩
  intro pixel among
  obtain ⟨place, below, rfl⟩ := List.mem_map.1 among
  have there : min 1 (total - place * 1) = 1 := by
    have := List.mem_range.1 below
    omega
  rw [List.drop_replicate, List.take_replicate, there]
  rfl

theorem withoutFinalZero_set (count : Nat) :
    withoutFinalZero (List.replicate count 1) = List.replicate count 1 := by
  cases count with
  | zero => rfl
  | succ count => simp [withoutFinalZero, List.getLast?_replicate]

/-- The 2 ^ 32 set bits of 2 ^ 29 bytes would be as many pixels of one bit, but the count
stops one short of them, and the last is not given. -/
theorem last_bit_is_not_counted :
    let bytes : List UInt8 := List.replicate (2 ^ 29) 0xFF
    let full := withoutFinalZero (fields (bitString bytes) 1 (8 * bytes.length / 1))
    full[2 ^ 32 - 1]? = some 1 ∧ (Decoder.start bytes 1 true).answer (2 ^ 32 - 1) = none := by
  intro bytes full
  have size : bytes.length = 2 ^ 29 := List.length_replicate
  have string : bitString bytes = List.replicate (8 * 2 ^ 29) true := bitString_set (2 ^ 29)
  have counted : Bits.countBits bytes.length / 1 = 2 ^ 32 - 1 := by
    rw [size]
    rfl
  have all : full = List.replicate (2 ^ 32) 1 := by
    have whole : 8 * bytes.length / 1 = 2 ^ 32 := by
      rw [size]
      rfl
    simp only [full]
    rw [whole, string, fields_set (by decide), withoutFinalZero_set]
  constructor
  · rw [all]
    exact List.getElem?_replicate_of_lt (by decide)
  · rw [Decoder.answer_eq, toList_start_literal bytes (by decide) (by decide), counted, string,
      fields_set (by decide), withoutFinalZero_set]
    exact List.getElem?_eq_none (Nat.le_of_eq List.length_replicate)

/-! ## Packed lines -/

/-- A packet as it is written in a packed line whose pixels have the given depth.
A single pixel is not written as a repetition, for its count would end the line. -/
inductive WrittenPacket (depth : Nat) where
  | literal (pixels : List UInt8) (nonempty : pixels ≠ []) (few : pixels.length ≤ 16)
      (narrow : ∀ pixel ∈ pixels, pixel.toNat < 2 ^ depth)
  | repeated (pixel : UInt8) (count : Nat) (several : 2 ≤ count) (few : count ≤ 16)
      (narrow : pixel.toNat < 2 ^ depth)

namespace WrittenPacket

variable {depth : Nat}

def pixels : WrittenPacket depth → List UInt8
  | literal pixels _ _ _ => pixels
  | repeated pixel count _ _ _ => List.replicate count pixel

def pixelBits (depth : Nat) (pixels : List UInt8) : List Bool :=
  pixels.flatMap fun pixel => binary depth pixel.toNat

/-- The kind, the count less one in four bits, and the pixels or the one that is
repeated. -/
def bits : WrittenPacket depth → List Bool
  | literal pixels _ _ _ =>
      true :: (binary 4 (pixels.length - 1) ++ pixelBits depth pixels)
  | repeated pixel count _ _ _ => false :: (binary 4 (count - 1) ++ binary depth pixel.toNat)

end WrittenPacket

/-- What may stand behind the last packet of a line: fewer than five zeros up to
the end of its bytes, or five zeros and anything. -/
inductive EndsLine : List Bool → Prop where
  | padded (count : Nat) (few : count < 5) : EndsLine (List.replicate count false)
  | marked (anything : List Bool) : EndsLine (List.replicate 5 false ++ anything)

/-- A decoder within a packed line, with what is left of the packet in hand and the
bits that it has still to go through. -/
structure Decoder.Stands (decoder : Decoder) (depth : Nat) (packet : Packet)
    (string : List Bool) : Prop where
  depth : decoder.depth = depth
  stage : decoder.stage = .packed packet
  balanced : decoder.bits.Balanced
  bits : decoder.bits.toList = string

namespace Decoder

section Packed

variable {decoder : Decoder} {depth : Nat} {string : List Bool}

theorem Stands.next_eq {packet : Packet} (stands : decoder.Stands depth packet string) :
    decoder.next = decoder.nextPacked packet := by
  rw [next, stands.stage]

/-- The pixels left in a literal packet are read one by one. -/
theorem toList_of_literal_packet (narrow : depth < 32) (pixels : List UInt8)
    (fit : ∀ pixel ∈ pixels, pixel.toNat < 2 ^ depth) :
    ∀ decoder : Decoder,
      decoder.Stands depth (.literal pixels.length)
        (WrittenPacket.pixelBits depth pixels ++ string) →
      ∃ after : Decoder, after.Stands depth (.literal 0) string
        ∧ decoder.toList = pixels ++ after.toList := by
  induction pixels with
  | nil => exact fun decoder stands => ⟨decoder, stands, rfl⟩
  | cons pixel pixels recurse =>
      intro decoder stands
      have front : decoder.bits.toList
          = binary decoder.depth pixel.toNat
            ++ (WrittenPacket.pixelBits depth pixels ++ string) := by
        rw [stands.bits, stands.depth, WrittenPacket.pixelBits, List.flatMap_cons,
          List.append_assoc]
        rfl
      obtain ⟨answer, left⟩ := stands.balanced.take_binary _ _ (by rwa [stands.depth])
        (by rw [stands.depth]; exact fit pixel List.mem_cons_self) front
      rw [UInt8.ofNat_toNat] at answer
      have step : decoder.next = (some pixel,
          { decoder with
            bits := (decoder.bits.take decoder.depth).2
            stage := .packed (.literal pixels.length) }) := by
        rw [stands.next_eq, List.length_cons, nextPacked, answer]
      have further : decoder.next.2.Stands depth (.literal pixels.length)
          (WrittenPacket.pixelBits depth pixels ++ string) := by
        rw [step]
        exact ⟨stands.depth, rfl, stands.balanced.take _, left⟩
      obtain ⟨after, done, all⟩ :=
        recurse (fun other among => fit other (List.mem_cons_of_mem _ among)) _ further
      refine ⟨after, done, ?_⟩
      rw [toList_of_some (congrArg Prod.fst step), all, List.cons_append]

/-- The pixel of a repetition is given as often as it is still to come. -/
theorem toList_of_repetition (pixel : UInt8) (count : Nat) :
    ∀ decoder : Decoder, decoder.Stands depth (.repeated pixel count) string →
      ∃ after : Decoder, after.Stands depth (.repeated pixel 0) string
        ∧ decoder.toList = List.replicate count pixel ++ after.toList := by
  induction count with
  | zero => exact fun decoder stands => ⟨decoder, stands, rfl⟩
  | succ count recurse =>
      intro decoder stands
      have step : decoder.next = (some pixel,
          { decoder with stage := .packed (.repeated pixel count) }) := by
        rw [stands.next_eq, nextPacked]
      have further : decoder.next.2.Stands depth (.repeated pixel count) string := by
        rw [step]
        exact ⟨stands.depth, rfl, stands.balanced, stands.bits⟩
      obtain ⟨after, done, all⟩ := recurse _ further
      refine ⟨after, done, ?_⟩
      rw [toList_of_some (congrArg Prod.fst step), all, List.replicate_succ, List.cons_append]

/-- The head of a packet is its kind and its count less one. Its first pixel is
given at once. -/
theorem Stands.next_packet {packet : Packet} {kind count : Nat} {pixel : UInt8}
    (stands : decoder.Stands depth packet
      (binary 1 kind ++ (binary 4 count ++ (binary depth pixel.toNat ++ string))))
    (done : packet.pending = 0) (narrow : depth < 32) (isKind : kind < 2) (isCount : count < 16)
    (fits : pixel.toNat < 2 ^ depth) (goesOn : ¬(kind = 0 ∧ count = 0)) :
    decoder.next.1 = some pixel
      ∧ decoder.next.2.Stands depth
          (if kind = 0 then .repeated pixel count else .literal count) string := by
  obtain ⟨kindRead, afterKind⟩ := stands.balanced.take_binary _ _ (by decide) isKind stands.bits
  have balancedKind := stands.balanced.take 1
  obtain ⟨countRead, afterCount⟩ := balancedKind.take_binary _ _ (by decide) isCount afterKind
  have balancedCount := balancedKind.take 4
  obtain ⟨pixelRead, afterPixel⟩ := balancedCount.take_binary _ _ narrow fits afterCount
  rw [UInt8.ofNat_toNat] at pixelRead
  have kindZero : (decoder.bits.take 1).1 = 0 ↔ kind = 0 := by
    rw [kindRead, ← UInt8.toNat_inj, UInt8.toNat_ofNat', Nat.mod_eq_of_lt (by omega)]
    rfl
  have countSame : ((decoder.bits.take 1).2.take 4).1.toNat = count := by
    rw [countRead, UInt8.toNat_ofNat', Nat.mod_eq_of_lt (by omega)]
  have countZero : ((decoder.bits.take 1).2.take 4).1 = 0 ↔ count = 0 := by
    rw [← UInt8.toNat_inj, countSame]
    rfl
  have step : decoder.next = (some pixel,
      { decoder with
        bits := (((decoder.bits.take 1).2.take 4).2.take depth).2
        stage := .packed (if kind = 0 then .repeated pixel count else .literal count) }) := by
    rw [stands.next_eq, nextPacked_of_done done]
    simp only [nextPacket, kindZero, countZero, if_neg goesOn, countSame, stands.depth, pixelRead]
  rw [step]
  exact ⟨rfl, stands.depth, rfl, balancedCount.take depth, afterPixel⟩

/-- **A packet gives its pixels**, and what stands behind it comes next. -/
theorem Stands.toList_packet {packet : Packet} (written : WrittenPacket depth)
    (stands : decoder.Stands depth packet (written.bits ++ string)) (done : packet.pending = 0)
    (narrow : depth < 32) :
    ∃ (after : Decoder) (left : Packet), after.Stands depth left string ∧ left.pending = 0
      ∧ decoder.toList = written.pixels ++ after.toList := by
  cases written with
  | literal pixels nonempty few fit =>
      obtain ⟨first, others, rfl⟩ := List.exists_cons_of_ne_nil nonempty
      rw [List.length_cons] at few
      have front : (WrittenPacket.literal (first :: others) nonempty few fit).bits ++ string
          = binary 1 1 ++ (binary 4 others.length
            ++ (binary depth first.toNat ++ (WrittenPacket.pixelBits depth others ++ string))) := by
        simp only [WrittenPacket.bits, WrittenPacket.pixelBits, List.flatMap_cons,
          List.cons_append, List.append_assoc, List.length_cons, Nat.add_sub_cancel]
        rfl
      rw [front] at stands
      obtain ⟨given, inside⟩ := stands.next_packet done narrow (by decide) (by omega)
        (fit first List.mem_cons_self) (by omega)
      obtain ⟨after, ends, all⟩ := toList_of_literal_packet narrow others
        (fun other among => fit other (List.mem_cons_of_mem _ among)) _ inside
      refine ⟨after, _, ends, rfl, ?_⟩
      rw [toList_of_some given, all]
      rfl
  | repeated pixel count several few fit =>
      obtain ⟨further, rfl⟩ := Nat.exists_eq_add_of_le several
      have front : (WrittenPacket.repeated pixel (2 + further) several few fit).bits ++ string
          = binary 1 0 ++ (binary 4 (further + 1) ++ (binary depth pixel.toNat ++ string)) := by
        have less : 2 + further - 1 = further + 1 := by omega
        simp only [WrittenPacket.bits, List.cons_append, List.append_assoc, less]
        rfl
      rw [front] at stands
      obtain ⟨given, inside⟩ :=
        stands.next_packet done narrow (by decide) (by omega) fit (by omega)
      obtain ⟨after, ends, all⟩ := toList_of_repetition pixel (further + 1) _ inside
      refine ⟨after, _, ends, rfl, ?_⟩
      rw [toList_of_some given, all, WrittenPacket.pixels, Nat.add_comm 2, List.replicate_succ]
      rfl

/-- A packet of no kind and no count ends the line, and so do zeros that are too
few for one: a request for more bits than are left is answered with zero. -/
theorem Stands.toList_end {packet : Packet} (stands : decoder.Stands depth packet string)
    (done : packet.pending = 0) (ends : EndsLine string) : decoder.toList = [] := by
  have marked : (decoder.bits.take 1).1 = 0 ∧ ((decoder.bits.take 1).2.take 4).1 = 0 := by
    have balanced := stands.balanced
    have written := stands.bits
    cases ends with
    | padded count few =>
        cases count with
        | zero =>
            have short : decoder.bits.left < 1 := by
              rw [← balanced.length_toList, written]
              decide
            rw [Bits.take_of_short _ short,
              Bits.take_of_short _ (show decoder.bits.left < 4 by omega)]
            exact ⟨rfl, rfl⟩
        | succ count =>
            obtain ⟨kind, left⟩ := balanced.take_binary 1 0 (by decide) (by decide)
              (written.trans (show _ = binary 1 0 ++ List.replicate count false from rfl))
            have short : (decoder.bits.take 1).2.left < 4 := by
              rw [← (balanced.take 1).length_toList, left, List.length_replicate]
              omega
            rw [Bits.take_of_short _ short]
            exact ⟨kind, rfl⟩
    | marked anything =>
        obtain ⟨kind, left⟩ := balanced.take_binary 1 0 (by decide) (by decide)
          (written.trans (show _ = binary 1 0 ++ (binary 4 0 ++ anything) from rfl))
        exact ⟨kind, ((balanced.take 1).take_binary _ _ (by decide) (by decide) left).1⟩
  apply toList_of_none
  rw [stands.next_eq, nextPacked_of_done done]
  simp only [nextPacket, if_pos marked]

/-- **The packets of a line give their pixels one after the other.** -/
theorem toList_of_packets (narrow : depth < 32) (ends : EndsLine string)
    (packets : List (WrittenPacket depth)) :
    ∀ (decoder : Decoder) (packet : Packet), packet.pending = 0 →
      decoder.Stands depth packet (packets.flatMap WrittenPacket.bits ++ string) →
      decoder.toList = packets.flatMap WrittenPacket.pixels := by
  induction packets with
  | nil =>
      intro decoder packet done stands
      exact stands.toList_end done ends
  | cons written packets recurse =>
      intro decoder packet done stands
      rw [List.flatMap_cons, List.append_assoc] at stands
      obtain ⟨after, left, further, doneToo, all⟩ := stands.toList_packet written done narrow
      rw [all, recurse after left doneToo further, List.flatMap_cons]

end Packed

end Decoder

theorem toList_start_packed {bytes : List UInt8} {depth : Nat} (positive : 1 ≤ depth)
    (narrow : depth ≤ 4) {packets : List (WrittenPacket depth)} {tail : List Bool}
    (written : countedBits bytes = packets.flatMap WrittenPacket.bits ++ tail)
    (ends : EndsLine tail) :
    (Decoder.start bytes depth false).toList = packets.flatMap WrittenPacket.pixels := by
  have stands : (Decoder.start bytes depth false).Stands depth .none
      (packets.flatMap WrittenPacket.bits ++ tail) :=
    ⟨Decoder.clampDepth_of_range positive narrow, rfl, Bits.balanced_ofBytes bytes, written⟩
  exact Decoder.toList_of_packets (by omega) ends packets _ .none rfl stands

/-- **A packed line gives the pixels of its packets.** Whatever packets are written
at the front of its bits, with pixels of the line's depth, and end there with an
end mark, or with zeros too few for one that fill up the last byte, decoding gives
what the packets stand for. Behind that every request is answered with nothing. The
bits are those that are counted: all of them in fewer than 2 ^ 29 bytes. -/
theorem packed_line_gives_its_packets {bytes : List UInt8} {depth : Nat} (positive : 1 ≤ depth)
    (narrow : depth ≤ 4) {packets : List (WrittenPacket depth)} {tail : List Bool}
    (written : countedBits bytes = packets.flatMap WrittenPacket.bits ++ tail)
    (ends : EndsLine tail) :
    let expected := packets.flatMap WrittenPacket.pixels
    (bytes.length < 2 ^ 29 → countedBits bytes = bitString bytes)
      ∧ pixels bytes depth false = expected
      ∧ ∀ count, (Decoder.start bytes depth false).answer count = expected[count]? := by
  intro expected
  have given : (Decoder.start bytes depth false).toList = expected :=
    toList_start_packed positive narrow written ends
  exact ⟨countedBits_of_lt, given, fun count => by rw [Decoder.answer_eq, given]⟩

/-- Three pixels of three bits and then one that comes four times, over three bytes
with two bits that fill up the last. -/
theorem packed_line_of_two_packets :
    pixels [0x93, 0x84, 0x74] 3 false = [3, 4, 1, 5, 5, 5, 5]
      ∧ (Decoder.start [0x93, 0x84, 0x74] 3 false).answer 6 = some 5
      ∧ (Decoder.start [0x93, 0x84, 0x74] 3 false).answer 7 = none := by
  let packets : List (WrittenPacket 3) :=
    [.literal [3, 4, 1] (by decide) (by decide) (by simp),
      .repeated 5 4 (by decide) (by decide) (by decide)]
  have written : countedBits [0x93, 0x84, 0x74]
      = packets.flatMap WrittenPacket.bits ++ List.replicate 2 false := rfl
  obtain ⟨_, given, answers⟩ :=
    packed_line_gives_its_packets (by decide) (by decide) written (.padded 2 (by decide))
  exact ⟨given, answers 6, answers 7⟩

/-- Of 2 ^ 32 bytes none is counted, so the packet that they begin with is not given. -/
theorem uncounted_packet_is_not_given :
    let bytes : List UInt8 := 0x12 :: 0x80 :: List.replicate (2 ^ 32 - 2) 0
    let packets : List (WrittenPacket 4) := [.repeated 5 3 (by decide) (by decide) (by decide)]
    (∃ tail, bitString bytes = packets.flatMap WrittenPacket.bits ++ tail ∧ EndsLine tail)
      ∧ (packets.flatMap WrittenPacket.pixels)[0]? = some 5
      ∧ (Decoder.start bytes 4 false).answer 0 = none := by
  intro bytes packets
  have front (others : List UInt8) : bitString (0x12 :: 0x80 :: others)
      = packets.flatMap WrittenPacket.bits
        ++ (List.replicate 5 false ++ (List.replicate 2 false ++ bitString others)) := rfl
  have size : bytes.length = 2 ^ 32 := by
    rw [List.length_cons, List.length_cons, List.length_replicate]
    omega
  have nothing : countedBits bytes = List.replicate 0 false := by
    rw [countedBits, size]
    rfl
  have empty : (Decoder.start bytes 4 false).toList
      = ([] : List (WrittenPacket 4)).flatMap WrittenPacket.pixels :=
    toList_start_packed (by decide) (by decide) nothing (.padded 0 (by decide))
  refine ⟨⟨_, front _, .marked _⟩, rfl, ?_⟩
  rw [Decoder.answer_eq, empty]
  rfl

end LynxSuzy.Line
