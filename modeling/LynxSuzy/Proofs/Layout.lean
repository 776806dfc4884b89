import LynxSuzy.Proofs.Costs

/-!
Contract: a descriptor as a value of the memory that holds it.

Owns: the offsets of the optional fields, the latches that a descriptor leaves
behind, and reading a descriptor in terms of both. What is read is settled by
the bytes of the descriptor and by the latches that it does not reload.

Does **not** own: what drawing does to the latches afterwards
(`Proofs.Latches`).
-/

set_option autoImplicit false

namespace LynxSuzy

theorem Memory.word_congr {first second : Memory} {address : UInt16}
    (low : second.get address = first.get address)
    (high : second.get (address + 1) = first.get (address + 1)) :
    second.word address = first.word address := by
  rw [Memory.word, Memory.word, low, high]

namespace Sprite

/-! ## Optional fields -/

namespace Control

def stretchOffset (control : Control) : Nat :=
  11 + if control.reload.hasSize then 4 else 0

def tiltOffset (control : Control) : Nat :=
  control.stretchOffset + if control.reload.hasStretch then 2 else 0

def paletteOffset (control : Control) : Nat :=
  control.tiltOffset + if control.reload.hasTilt then 2 else 0

theorem descriptorBytes_of_draws {control : Control} (draws : control.skip = false) :
    control.descriptorBytes
      = control.paletteOffset + if control.reloadPalette then 8 else 0 := by
  simp only [descriptorBytes, draws, Bool.false_eq_true, if_false, paletteOffset, tiltOffset,
    stretchOffset]

end Control

def Latches.reloaded (latches : Latches) (control : Control) (memory : Memory)
    (address : UInt16) : Latches where
  hpos := memory.word (address + 7)
  vpos := memory.word (address + 9)
  hsize := if control.reload.hasSize then memory.word (address + 11) else latches.hsize
  vsize := if control.reload.hasSize then memory.word (address + 13) else latches.vsize
  stretch :=
    if control.reload.hasStretch then memory.word (address + UInt16.ofNat control.stretchOffset)
    else latches.stretch
  tilt :=
    if control.reload.hasTilt then memory.word (address + UInt16.ofNat control.tiltOffset)
    else latches.tilt
  palette :=
    if control.reloadPalette then
      unpackPalette (memory.slice (address + UInt16.ofNat control.paletteOffset) 8)
    else latches.palette

def Descriptor.ofMemory (memory : Memory) (address : UInt16) : Descriptor :=
  let control0 := memory.get address
  let control1 := memory.get (address + 1)
  let collision := memory.get (address + 2)
  { address := address
    control0 := control0
    control1 := control1
    collision := collision
    link := memory.word (address + 3)
    data :=
      if (Control.decode control0 control1 collision).skip then 0 else memory.word (address + 5) }

namespace Fetch

variable (fetch : Fetch)

/-- A field that is read, or not, leaves the rest to begin behind it. -/
theorem address_optional (present : Bool) {field : Fetch → Fetch} (count : Nat)
    (longer : (field fetch).address = fetch.address + UInt16.ofNat count) :
    (fetch.optional present field).address
      = fetch.address + UInt16.ofNat (if present then count else 0) := by
  cases present with
  | false => exact (UInt16.add_zero _).symm
  | true => exact longer

theorem latches_optional_size (present : Bool) :
    (fetch.optional present size).latches
      = { fetch.latches with
          hsize := if present then fetch.memory.memory.word fetch.address else fetch.latches.hsize
          vsize :=
            if present then fetch.memory.memory.word (fetch.address + 2)
            else fetch.latches.vsize } := by
  cases present <;> rfl

theorem latches_optional_stretch (present : Bool) :
    (fetch.optional present stretch).latches
      = { fetch.latches with
          stretch :=
            if present then fetch.memory.memory.word fetch.address else fetch.latches.stretch } := by
  cases present <;> rfl

theorem latches_optional_tilt (present : Bool) :
    (fetch.optional present tilt).latches
      = { fetch.latches with
          tilt :=
            if present then fetch.memory.memory.word fetch.address else fetch.latches.tilt } := by
  cases present <;> rfl

theorem latches_optional_palette (present : Bool) :
    (fetch.optional present palette).latches
      = { fetch.latches with
          palette :=
            if present then unpackPalette (fetch.memory.memory.slice fetch.address 8)
            else fetch.latches.palette } := by
  cases present with
  | false => rfl
  | true =>
      simp only [optional, palette, Metered.readBytes_eq, if_true]

end Fetch

/-- What reading the optional fields in their order loads. -/
theorem Fetch.latches_optional_all (fetch : Fetch) (control : Control) {address : UInt16}
    (begun : fetch.address = address + 11) :
    let sized := fetch.optional control.reload.hasSize size
    let stretched := sized.optional control.reload.hasStretch stretch
    let tilted := stretched.optional control.reload.hasTilt tilt
    (tilted.optional control.reloadPalette palette).latches
      = { fetch.latches.reloaded control fetch.memory.memory address with
          hpos := fetch.latches.hpos
          vpos := fetch.latches.vpos } := by
  intro sized stretched tilted
  have offset (first second : Nat) :
      address + UInt16.ofNat first + UInt16.ofNat second = address + UInt16.ofNat (first + second) := by
    rw [UInt16.ofNat_add, UInt16.add_assoc]
  -- Each field begins behind those before it, and no reading changes a byte.
  have stretchPlace : sized.address = address + UInt16.ofNat control.stretchOffset := by
    rw [fetch.address_optional _ 4 rfl, begun]
    exact offset 11 _
  have tiltPlace : stretched.address = address + UInt16.ofNat control.tiltOffset := by
    rw [sized.address_optional _ 2 rfl, stretchPlace, offset]
    rfl
  have palettePlace : tilted.address = address + UInt16.ofNat control.paletteOffset := by
    rw [stretched.address_optional _ 2 rfl, tiltPlace, offset]
    rfl
  have sizedMemory : sized.memory.memory = fetch.memory.memory := by
    rw [fetch.memory_optional _ 4 rfl]
    rfl
  have stretchedMemory : stretched.memory.memory = fetch.memory.memory := by
    rw [← sizedMemory, sized.memory_optional _ 2 rfl]
    rfl
  have tiltedMemory : tilted.memory.memory = fetch.memory.memory := by
    rw [← stretchedMemory, stretched.memory_optional _ 2 rfl]
    rfl
  have vsizePlace : address + 11 + 2 = address + 13 := by
    rw [UInt16.add_assoc]
    rfl
  rw [latches_optional_palette, palettePlace, tiltedMemory]
  simp only [tilted, latches_optional_tilt, tiltPlace, stretchedMemory]
  simp only [stretched, latches_optional_stretch, stretchPlace, sizedMemory]
  simp only [sized, latches_optional_size, begun, vsizePlace]
  rfl

theorem Descriptor.data_of_skip {memory : Memory} {address : UInt16}
    (skips : (Descriptor.ofMemory memory address).control.skip = true) :
    (Descriptor.ofMemory memory address).data = 0 :=
  if_pos skips

theorem Descriptor.data_of_draws {memory : Memory} {address : UInt16}
    (draws : (Descriptor.ofMemory memory address).control.skip = false) :
    (Descriptor.ofMemory memory address).data = memory.word (address + 5) :=
  if_neg (Bool.eq_false_iff.1 draws)

section Cases

variable {memory : Metered} {address : UInt16} (latches : Latches)

/-- Of a sprite that is skipped nothing behind the link is read. -/
theorem fetch_of_skip (skips : (Descriptor.ofMemory memory.memory address).control.skip = true) :
    Descriptor.fetch memory address latches
      = ⟨Descriptor.ofMemory memory.memory address, latches, memory.charged 5⟩ := by
  have found : Descriptor.ofMemory memory.memory address
      = { Descriptor.ofMemory memory.memory address with data := 0 } := by
    rw [← Descriptor.data_of_skip skips]
  unfold Descriptor.fetch
  extract_lets _ _ _ _ control
  have skipped : control.skip = true := skips
  rw [if_pos skipped, found]
  rfl

/-- **Reading a descriptor** loads the latches that it carries, at the cost of
its bytes. -/
theorem fetch_of_draws
    (draws : (Descriptor.ofMemory memory.memory address).control.skip = false) :
    let descriptor := Descriptor.ofMemory memory.memory address
    Descriptor.fetch memory address latches
      = ⟨descriptor, latches.reloaded descriptor.control memory.memory address,
          memory.charged descriptor.control.descriptorBytes⟩ := by
  intro descriptor
  have found : descriptor = { descriptor with data := memory.memory.word (address + 5) } := by
    rw [← Descriptor.data_of_draws draws]
  have read : (Descriptor.fetch memory address latches).descriptor = descriptor := by
    unfold Descriptor.fetch
    extract_lets _ _ _ _ control
    have drawn : control.skip = false := draws
    rw [drawn, if_neg Bool.false_ne_true, found]
    rfl
  have loaded : (Descriptor.fetch memory address latches).latches
      = latches.reloaded descriptor.control memory.memory address := by
    unfold Descriptor.fetch
    extract_lets _ _ _ _ control _ _ _ first
    have drawn : control.skip = false := draws
    simp only [drawn, Bool.false_eq_true, if_false]
    rw [first.latches_optional_all control rfl]
    rfl
  have costs := memory_fetch (rfl : Descriptor.fetch memory address latches = _)
  calc Descriptor.fetch memory address latches
      = ⟨(Descriptor.fetch memory address latches).descriptor,
          (Descriptor.fetch memory address latches).latches,
          (Descriptor.fetch memory address latches).memory⟩ := rfl
    _ = ⟨descriptor, latches.reloaded descriptor.control memory.memory address,
          memory.charged descriptor.control.descriptorBytes⟩ := by
        rw [costs, loaded, read]

end Cases

/-! ## What settles a reading -/

def BytesAgree (first second : Memory) (address : UInt16) (start stop : Nat) : Prop :=
  ∀ offset, start ≤ offset → offset < stop →
    second.get (address + UInt16.ofNat offset) = first.get (address + UInt16.ofNat offset)

section Agreement

variable {first second : Memory} {address : UInt16} {start stop : Nat}

theorem BytesAgree.mono {later sooner : Nat} (agree : BytesAgree first second address start stop)
    (after : start ≤ later) (before : sooner ≤ stop) :
    BytesAgree first second address later sooner :=
  fun offset begun inside => agree offset (Nat.le_trans after begun)
    (Nat.lt_of_lt_of_le inside before)

theorem BytesAgree.byte (agree : BytesAgree first second address start stop) {offset : Nat}
    (begun : start ≤ offset) (inside : offset < stop) :
    second.get (address + UInt16.ofNat offset) = first.get (address + UInt16.ofNat offset) :=
  agree offset begun inside

theorem BytesAgree.word (agree : BytesAgree first second address start stop) {offset : Nat}
    (begun : start ≤ offset) (inside : offset + 1 < stop) :
    second.word (address + UInt16.ofNat offset) = first.word (address + UInt16.ofNat offset) := by
  have next : address + UInt16.ofNat offset + 1 = address + UInt16.ofNat (offset + 1) := by
    rw [UInt16.ofNat_add, ← UInt16.add_assoc]
    rfl
  apply Memory.word_congr
  · exact agree offset begun (by omega)
  · rw [next]
    exact agree (offset + 1) (by omega) inside

theorem BytesAgree.slice (agree : BytesAgree first second address start stop)
    {offset length : Nat} (begun : start ≤ offset) (inside : offset + length ≤ stop) :
    second.slice (address + UInt16.ofNat offset) length
      = first.slice (address + UInt16.ofNat offset) length := by
  apply Memory.slice_congr
  intro further within
  rw [UInt16.add_assoc, ← UInt16.ofNat_add]
  exact agree (offset + further) (by omega) (by omega)

/-- Five bytes say where the next descriptor is and whether this one is drawn. -/
theorem five_le_descriptorBytes (control : Control) : 5 ≤ control.descriptorBytes := by
  unfold Control.descriptorBytes
  split <;> omega

theorem eleven_le_descriptorBytes {control : Control} (draws : control.skip = false) :
    11 ≤ control.descriptorBytes := by
  rw [Control.descriptorBytes_of_draws draws]
  simp only [Control.paletteOffset, Control.tiltOffset, Control.stretchOffset]
  omega

theorem controlBytes_congr (agree : BytesAgree first second address 0 3) :
    second.get address = first.get address ∧ second.get (address + 1) = first.get (address + 1)
      ∧ second.get (address + 2) = first.get (address + 2) := by
  refine ⟨?_, ?_, ?_⟩
  · simpa using agree.byte (Nat.zero_le 0) (show 0 < 3 by decide)
  · exact agree.byte (Nat.zero_le 1) (show 1 < 3 by decide)
  · exact agree.byte (Nat.zero_le 2) (show 2 < 3 by decide)

theorem control_congr (agree : BytesAgree first second address 0 3) :
    (Descriptor.ofMemory second address).control = (Descriptor.ofMemory first address).control := by
  obtain ⟨control0, control1, collision⟩ := controlBytes_congr agree
  simp only [Descriptor.control, Descriptor.ofMemory, control0, control1, collision]

theorem link_congr (agree : BytesAgree first second address 3 5) :
    (Descriptor.ofMemory second address).link = (Descriptor.ofMemory first address).link :=
  agree.word (Nat.le_refl 3) (show 3 + 1 < 5 by decide)

theorem data_congr (draws : (Descriptor.ofMemory first address).control.skip = false)
    (control : BytesAgree first second address 0 3) (pointer : BytesAgree first second address 5 7) :
    (Descriptor.ofMemory second address).data = (Descriptor.ofMemory first address).data := by
  have drawsToo : (Descriptor.ofMemory second address).control.skip = false := by
    rw [control_congr control]
    exact draws
  rw [Descriptor.data_of_draws drawsToo, Descriptor.data_of_draws draws]
  exact pointer.word (Nat.le_refl 5) (show 5 + 1 < 7 by decide)

/-- **The bytes of a descriptor settle it.** -/
theorem ofMemory_congr
    (agree : BytesAgree first second address 0
      (Descriptor.ofMemory first address).control.descriptorBytes) :
    Descriptor.ofMemory second address = Descriptor.ofMemory first address := by
  have five := five_le_descriptorBytes (Descriptor.ofMemory first address).control
  have begins := agree.mono (Nat.le_refl 0) (Nat.le_trans (show 3 ≤ 5 by decide) five)
  obtain ⟨control0, control1, collision⟩ := controlBytes_congr begins
  have link : second.word (address + 3) = first.word (address + 3) :=
    link_congr (agree.mono (Nat.zero_le 3) five)
  unfold Descriptor.ofMemory
  simp only [control0, control1, collision, link]
  split
  · rfl
  · rename_i draws
    have data : second.word (address + 5) = first.word (address + 5) :=
      (agree.mono (Nat.zero_le 0) (eleven_le_descriptorBytes (Bool.eq_false_iff.2 draws))).word
        (Nat.zero_le 5) (show 5 + 1 < 11 by decide)
    rw [data]

/-- Latches that differ at most in what a descriptor reloads. -/
structure Control.Alike (control : Control) (before after : Latches) : Prop where
  sizes : control.reload.hasSize = false →
    after.hsize = before.hsize ∧ after.vsize = before.vsize
  stretch : control.reload.hasStretch = false → after.stretch = before.stretch
  tilt : control.reload.hasTilt = false → after.tilt = before.tilt
  palette : control.reloadPalette = false → after.palette = before.palette

theorem BytesAgree.optional_word (agree : BytesAgree first second address start stop)
    {present : Bool} (offset : Nat) {before after : UInt16}
    (inside : present = true → start ≤ offset ∧ offset + 1 < stop)
    (kept : present = false → after = before) :
    (if present then second.word (address + UInt16.ofNat offset) else after)
      = if present then first.word (address + UInt16.ofNat offset) else before := by
  cases present with
  | true => exact agree.word (inside rfl).1 (inside rfl).2
  | false => exact kept rfl

/-- **The bytes of a descriptor behind its link settle the latches**, up to those
that it does not reload. -/
theorem reloaded_congr {control : Control} (draws : control.skip = false)
    (agree : BytesAgree first second address 5 control.descriptorBytes) {before after : Latches}
    (alike : control.Alike before after) :
    after.reloaded control second address = before.reloaded control first address := by
  have bytes := Control.descriptorBytes_of_draws draws
  -- A field that is read ends where the next one begins, at the latest where the
  -- descriptor ends.
  have afterSizes : control.reload.hasSize = true → control.stretchOffset = 15 :=
    fun sized => by rw [Control.stretchOffset, if_pos sized]
  have afterStretch : control.reload.hasStretch = true →
      control.tiltOffset = control.stretchOffset + 2 :=
    fun stretched => by rw [Control.tiltOffset, if_pos stretched]
  have afterTilt : control.reload.hasTilt = true →
      control.paletteOffset = control.tiltOffset + 2 :=
    fun tilted => by rw [Control.paletteOffset, if_pos tilted]
  have order : 11 ≤ control.stretchOffset ∧ control.stretchOffset ≤ control.tiltOffset
      ∧ control.tiltOffset ≤ control.paletteOffset := by
    simp only [Control.paletteOffset, Control.tiltOffset, Control.stretchOffset]
    omega
  have hpos : second.word (address + 7) = first.word (address + 7) :=
    agree.word (show 5 ≤ 7 by decide) (show 7 + 1 < control.descriptorBytes by omega)
  have vpos : second.word (address + 9) = first.word (address + 9) :=
    agree.word (show 5 ≤ 9 by decide) (show 9 + 1 < control.descriptorBytes by omega)
  have hsize : (if control.reload.hasSize then second.word (address + 11) else after.hsize)
      = if control.reload.hasSize then first.word (address + 11) else before.hsize := by
    apply agree.optional_word 11
    · intro sized
      have room := afterSizes sized
      omega
    · exact fun kept => (alike.sizes kept).1
  have vsize : (if control.reload.hasSize then second.word (address + 13) else after.vsize)
      = if control.reload.hasSize then first.word (address + 13) else before.vsize := by
    apply agree.optional_word 13
    · intro sized
      have room := afterSizes sized
      omega
    · exact fun kept => (alike.sizes kept).2
  have stretch := agree.optional_word control.stretchOffset (fun stretched => by
    have room := afterStretch stretched
    omega) alike.stretch
  have tilt := agree.optional_word control.tiltOffset (fun tilted => by
    have room := afterTilt tilted
    omega) alike.tilt
  unfold Latches.reloaded
  rw [hpos, vpos, hsize, vsize, stretch, tilt]
  cases carried : control.reloadPalette with
  | true =>
      rw [carried, if_pos rfl] at bytes
      have palette := agree.slice (show 5 ≤ control.paletteOffset by omega)
        (Nat.le_of_eq bytes.symm)
      rw [if_pos rfl, if_pos rfl, palette]
  | false =>
      rw [if_neg Bool.false_ne_true, if_neg Bool.false_ne_true, alike.palette carried]

end Agreement

end Sprite

end LynxSuzy
