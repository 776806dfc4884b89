import LynxSuzy.Proofs.Layout
import LynxSuzy.Proofs.Nibbles
import Mathlib.Data.Nat.Bitwise

/-!
Contract: the fields of a descriptor as numbers, each by its offset.

Owns: the number that two bytes of memory make, wherever they lie; the bits of the second
control byte that decide how far a descriptor goes; and reading one in terms of both: the
descriptor itself, the latches it loads and those it leaves, and the accesses it makes.

Does **not** own: which bytes settle a reading (`Proofs.Layout`).
-/

set_option autoImplicit false

namespace LynxSuzy

/-! ## Bytes and words -/

theorem Byte.flagged_eq_testBit (byte mask : UInt8) {bit : Nat} (single : mask.toNat = 2 ^ bit) :
    flagged byte mask = byte.toNat.testBit bit := by
  have zero : (byte &&& mask = 0) ↔ byte.toNat.testBit bit = false := by
    rw [← UInt8.toNat_inj, UInt8.toNat_and, single, Nat.and_two_pow]
    cases byte.toNat.testBit bit <;> simp
  unfold flagged
  cases set : byte.toNat.testBit bit with
  | false => simp [zero.2 set]
  | true =>
      have some : byte &&& mask ≠ 0 := fun none => by simp [zero.1 none] at set
      simp [some]

theorem Word.toNat_ofBytes (low high : UInt8) :
    (ofBytes low high).toNat = low.toNat + 256 * high.toNat := by
  have shift : (8 : UInt16).toNat % 16 = 8 := by decide
  have small := low.toNat_lt
  have bound := high.toNat_lt
  rw [ofBytes, UInt16.toNat_or, UInt16.toNat_shiftLeft, shift, UInt8.toNat_toUInt16,
    UInt8.toNat_toUInt16, Nat.shiftLeft_eq, Nat.mod_eq_of_lt (by omega), ← Nat.shiftLeft_eq,
    ← Nat.shiftLeft_add_eq_or_of_lt small, Nat.shiftLeft_eq]
  omega

namespace Memory

/-- The number that the two bytes at an offset behind an address make, the lower byte
first. Both addresses wrap. -/
def wordAt (memory : Memory) (address : UInt16) (offset : Nat) : Nat :=
  (memory.get (address + UInt16.ofNat offset)).toNat
    + 256 * (memory.get (address + UInt16.ofNat (offset + 1))).toNat

theorem toNat_word (memory : Memory) (address : UInt16) (offset : Nat) :
    (memory.word (address + UInt16.ofNat offset)).toNat = memory.wordAt address offset := by
  rw [word, Word.toNat_ofBytes, wordAt, UInt16.ofNat_add, ← UInt16.add_assoc]
  rfl

theorem getD_slice (memory : Memory) (count : Nat) :
    ∀ (address : UInt16) {index : Nat}, index < count →
      (memory.slice address count).getD index 0 = memory.get (address + UInt16.ofNat index) := by
  induction count with
  | zero => exact fun _ _ inside => absurd inside (Nat.not_lt_zero _)
  | succ count recurse =>
      intro address index inside
      cases index with
      | zero => simp [slice]
      | succ index =>
          rw [slice, List.getD_cons_succ, recurse (address + 1) (Nat.lt_of_succ_lt_succ inside),
            UInt16.add_assoc, Nat.add_comm index, UInt16.ofNat_add]
          rfl

end Memory

/-! ## How far a descriptor goes -/

namespace Sprite

def reloadDepth (control1 : UInt8) : Nat :=
  control1.toNat / 16 % 4

def optionalBytes : Nat → Nat
  | 0 => 0
  | 1 => 4
  | 2 => 6
  | _ => 8

theorem toNat_reloadBits (control1 : UInt8) :
    ((control1 &&& 0x30) >>> 4).toNat = reloadDepth control1 := by
  have mask : (0x30 : UInt8).toNat >>> 4 = 2 ^ 2 - 1 := rfl
  rw [UInt8.toNat_shiftRight, UInt8.toNat_and]
  have four : (4 : UInt8).toNat % 8 = 4 := rfl
  rw [four, Nat.shiftRight_and_distrib, mask, Nat.and_two_pow_sub_one_eq_mod,
    Nat.shiftRight_eq_div_pow]
  rfl

/-- How many of the optional words are reloaded, in the order they lie in. -/
def Reload.ofDepth : Nat → Reload
  | 0 => .nothing
  | 1 => .size
  | 2 => .sizeStretch
  | _ => .sizeStretchTilt

theorem Reload.ofBits_eq (control1 : UInt8) : ofBits control1 = ofDepth (reloadDepth control1) := by
  rw [ofBits, toNat_reloadBits]
  rfl

section Depth

variable (depth : Nat)

theorem Reload.has_ofDepth :
    (ofDepth depth).hasSize = decide (1 ≤ depth)
      ∧ (ofDepth depth).hasStretch = decide (2 ≤ depth)
      ∧ (ofDepth depth).hasTilt = decide (3 ≤ depth) := by
  rcases depth with _ | _ | _ | _
  · exact ⟨rfl, rfl, rfl⟩
  · exact ⟨rfl, rfl, rfl⟩
  · exact ⟨rfl, rfl, rfl⟩
  · simp [ofDepth, hasSize, hasStretch, hasTilt]

/-- The palette lies behind the last optional word. -/
theorem paletteOffset_of_depth {control : Control} (choice : control.reload = .ofDepth depth) :
    control.paletteOffset = 11 + optionalBytes depth := by
  rw [Control.paletteOffset, Control.tiltOffset, Control.stretchOffset, choice]
  rcases depth with _ | _ | _ | _ <;> rfl

end Depth

/-! ## The layout -/

/-- What a descriptor loads into the latches, field by field: the positions always, as many of
the optional words as the reload choice says, and the palette unless it is kept. The numbers
are offsets behind the descriptor's address. -/
structure LaidOut (memory : Memory) (address : UInt16) (depth : Nat) (keepsPalette : Bool)
    (before after : Latches) : Prop where
  hpos : after.hpos.toNat = memory.wordAt address 7
  vpos : after.vpos.toNat = memory.wordAt address 9
  hsize : after.hsize.toNat
    = if 1 ≤ depth then memory.wordAt address 11 else before.hsize.toNat
  vsize : after.vsize.toNat
    = if 1 ≤ depth then memory.wordAt address 13 else before.vsize.toNat
  stretch : after.stretch.toNat
    = if 2 ≤ depth then memory.wordAt address 15 else before.stretch.toNat
  tilt : after.tilt.toNat
    = if 3 ≤ depth then memory.wordAt address 17 else before.tilt.toNat
  palette : ∀ index : Fin 16, after.palette[index].toNat
    = if keepsPalette then before.palette[index].toNat
      else
        let pair := memory.get
          (address + UInt16.ofNat (11 + optionalBytes depth + index / 2))
        if index.val % 2 = 0 then pair.toNat / 16 else pair.toNat % 16

/-- Two entries of the palette share a byte. -/
theorem toNat_unpackPalette (bytes : List UInt8) (index : Fin 16) :
    (unpackPalette bytes)[index].toNat
      = if index.val % 2 = 0 then (bytes.getD (index / 2) 0).toNat / 16
        else (bytes.getD (index / 2) 0).toNat % 16 := by
  simp only [unpackPalette, Fin.getElem_fin, Vector.getElem_ofFn]
  by_cases even : index.val % 2 = 0
  · rw [if_pos even, if_pos even, Byte.toNat_nibble_high]
  · rw [if_neg even, if_neg even, Byte.toNat_nibble_low]

section Layout

variable {memory : Memory} {address : UInt16} {control : Control} {depth : Nat}

theorem toNat_optional_word {present : Bool} {place offset least : Nat}
    (asked : present = decide (least ≤ depth)) (lies : least ≤ depth → place = offset)
    (kept : UInt16) :
    (if present then memory.word (address + UInt16.ofNat place) else kept).toNat
      = if least ≤ depth then memory.wordAt address offset else kept.toNat := by
  by_cases reaches : least ≤ depth
  · rw [asked, decide_eq_true reaches, if_pos rfl, if_pos reaches, lies reaches,
      memory.toNat_word]
  · rw [asked, decide_eq_false reaches, if_neg Bool.false_ne_true, if_neg reaches]

/-- A descriptor that is read loads its fields from where they lie. -/
theorem laidOut_reloaded (choice : control.reload = .ofDepth depth) (latches : Latches) :
    LaidOut memory address depth (!control.reloadPalette) latches
      (latches.reloaded control memory address) := by
  obtain ⟨sized, stretched, tilted⟩ := Reload.has_ofDepth depth
  rw [← choice] at sized stretched tilted
  have stretchPlace (reaches : 2 ≤ depth) : control.stretchOffset = 15 := by
    rw [Control.stretchOffset, sized, decide_eq_true (by omega), if_pos rfl]
  have tiltPlace (reaches : 3 ≤ depth) : control.tiltOffset = 17 := by
    rw [Control.tiltOffset, stretchPlace (by omega), stretched, decide_eq_true (by omega),
      if_pos rfl]
  constructor
  · exact memory.toNat_word address 7
  · exact memory.toNat_word address 9
  · exact toNat_optional_word sized (fun _ => (rfl : 11 = 11)) latches.hsize
  · exact toNat_optional_word sized (fun _ => (rfl : 13 = 13)) latches.vsize
  · exact toNat_optional_word stretched stretchPlace latches.stretch
  · exact toNat_optional_word tilted tiltPlace latches.tilt
  · intro index
    have pair : index.val / 2 < 8 := by omega
    unfold Latches.reloaded
    cases own : control.reloadPalette with
    | false => rfl
    | true =>
        simp only [if_true, Bool.not_true, Bool.false_eq_true, if_false]
        rw [toNat_unpackPalette, memory.getD_slice 8 _ pair, paletteOffset_of_depth depth choice,
          UInt16.add_assoc, ← UInt16.ofNat_add]

end Layout

/-- **Where the fields of a descriptor lie.** Its bytes are counted from the descriptor's
address, and the addresses wrap. A descriptor that is to be skipped is read up to its link, and
leaves the latches as they were. Any other loads as much as its control bytes ask for, and
costs as many accesses as it then has bytes. -/
theorem descriptor_layout (memory : Metered) (address : UInt16) (latches : Latches) :
    let ram := memory.memory
    let control1 := (ram.get (address + 1)).toNat
    let depth := control1 / 16 % 4
    let keepsPalette := control1.testBit 3
    let fetched := Descriptor.fetch memory address latches
    (fetched.descriptor.address = address
        ∧ fetched.descriptor.control0 = ram.get address
        ∧ fetched.descriptor.control1 = ram.get (address + 1)
        ∧ fetched.descriptor.collision = ram.get (address + 2)
        ∧ fetched.descriptor.link.toNat = ram.wordAt address 3
        ∧ fetched.memory.memory = ram)
      ∧ (control1.testBit 2 = true →
          fetched.descriptor.data = 0 ∧ fetched.latches = latches
            ∧ fetched.memory.accesses = memory.accesses + 5)
      ∧ (control1.testBit 2 = false →
          fetched.descriptor.data.toNat = ram.wordAt address 5
            ∧ LaidOut ram address depth keepsPalette latches fetched.latches
            ∧ fetched.memory.accesses
                = memory.accesses
                  + (11 + optionalBytes depth + if keepsPalette then 0 else 8)) := by
  intro ram control1 depth keepsPalette fetched
  let descriptor := Descriptor.ofMemory ram address
  have skip : descriptor.control.skip = control1.testBit 2 := Byte.flagged_eq_testBit _ _ rfl
  have own : descriptor.control.reloadPalette = !keepsPalette :=
    congrArg not (Byte.flagged_eq_testBit _ _ rfl)
  have choice : descriptor.control.reload = .ofDepth depth := Reload.ofBits_eq _
  have link : descriptor.link.toNat = ram.wordAt address 3 := ram.toNat_word address 3
  cases skips : control1.testBit 2 with
  | true =>
      have read : fetched = ⟨descriptor, latches, memory.charged 5⟩ :=
        fetch_of_skip latches (skip.trans skips)
      rw [read]
      refine ⟨⟨rfl, rfl, rfl, rfl, link, rfl⟩, fun _ => ⟨?_, rfl, rfl⟩, fun draws => ?_⟩
      · exact Descriptor.data_of_skip (skip.trans skips)
      · contradiction
  | false =>
      have draws : descriptor.control.skip = false := skip.trans skips
      have read : fetched = ⟨descriptor, latches.reloaded descriptor.control ram address,
          memory.charged descriptor.control.descriptorBytes⟩ := fetch_of_draws latches draws
      have bytes : descriptor.control.descriptorBytes
          = 11 + optionalBytes depth + if keepsPalette then 0 else 8 := by
        rw [Control.descriptorBytes_of_draws draws, paletteOffset_of_depth depth choice, own]
        cases keepsPalette <;> rfl
      have layout := @laidOut_reloaded ram address descriptor.control depth choice latches
      rw [own, Bool.not_not] at layout
      rw [read]
      refine ⟨⟨rfl, rfl, rfl, rfl, link, rfl⟩, fun skipped => ?_, fun _ => ⟨?_, layout, ?_⟩⟩
      · contradiction
      · rw [Descriptor.data_of_draws draws]
        exact ram.toNat_word address 5
      · rw [← bytes]
        rfl

/-- A descriptor with sizes and a palette of its own, and neither a stretch nor a tilt. -/
def wrappingBytes : List UInt8 :=
  [0xC4, 0x10, 0x00, 0x34, 0x12, 0x00, 0x30, 0x2C, 0x01, 0x32, 0x00, 0x80, 0x01, 0x00, 0x02,
    0xFE, 0xDC, 0xBA, 0x98, 0x76, 0x54, 0x32, 0x10]

def wrappingMemory : Memory := (Memory.filled 0).load 0xFFF8 wrappingBytes

theorem get_wrappingMemory (offset : Fin 23) :
    wrappingMemory.get (0xFFF8 + UInt16.ofNat offset) = wrappingBytes.getD offset 0 := by
  rw [wrappingMemory, Memory.get_load _ _ _ _ (by decide), Memory.get_filled]
  revert offset
  decide

/-- Behind the end of memory a descriptor goes on at its start: the horizontal position and
everything behind it lies there. -/
theorem descriptor_over_the_end :
    let fetched := Descriptor.fetch (Metered.fresh wrappingMemory) 0xFFF8 Latches.initial
    (wrappingMemory.get (0xFFF8 + 1)).toNat.testBit 2 = false
      ∧ fetched.descriptor.link.toNat = 0x1234
      ∧ fetched.descriptor.data.toNat = 0x3000
      ∧ fetched.latches.hpos.toNat = 0x012C
      ∧ fetched.latches.vsize.toNat = 0x0200
      ∧ fetched.latches.stretch = 0
      ∧ (fetched.latches.palette[5]).toNat = 10
      ∧ fetched.memory.accesses = 23 := by
  have choice : wrappingMemory.get (0xFFF8 + 1) = 0x10 := get_wrappingMemory 1
  have draws : (wrappingMemory.get (0xFFF8 + 1)).toNat.testBit 2 = false := by
    rw [choice]
    decide
  have word (offset : Nat) (inside : offset + 1 < 23) : wrappingMemory.wordAt 0xFFF8 offset
      = (wrappingBytes.getD offset 0).toNat + 256 * (wrappingBytes.getD (offset + 1) 0).toNat := by
    rw [Memory.wordAt, get_wrappingMemory ⟨offset, by omega⟩,
      get_wrappingMemory ⟨offset + 1, inside⟩]
  obtain ⟨⟨_, _, _, _, link, _⟩, _, reads⟩ :=
    descriptor_layout (Metered.fresh wrappingMemory) 0xFFF8 Latches.initial
  obtain ⟨data, layout, accesses⟩ := reads draws
  have memory : (Metered.fresh wrappingMemory).memory = wrappingMemory := rfl
  rw [memory, choice] at layout accesses
  refine ⟨draws, ?_, ?_, ?_, ?_, ?_, ?_, ?_⟩
  · exact link.trans (word 3 (by decide))
  · exact data.trans (word 5 (by decide))
  · exact layout.hpos.trans (word 7 (by decide))
  · exact layout.vsize.trans (word 13 (by decide))
  · exact UInt16.toNat_inj.1 layout.stretch
  · -- The third byte behind the sizes holds entries four and five.
    exact (layout.palette 5).trans
      (congrArg (fun pair => pair.toNat % 16) (get_wrappingMemory 17))
  · exact accesses

end Sprite

end LynxSuzy
