import LynxSuzy.Proofs.Histories
import LynxSuzy.Proofs.Layout
import LynxSuzy.Proofs.Meetings

/-!
Contract: what the collision slots and the palette can hold.

Owns: that both are tables of nibbles, whatever is done to the console, so that
the depository registers show every slot as it is; and slot zero, which no sprite
reaches. A meeting changes the slots, a descriptor the palette; nothing else that
happens in a run comes near either.

Does **not** own: which meetings there are (`Proofs.Meetings`).
-/

set_option autoImplicit false

namespace LynxSuzy

namespace Byte

theorem nibble_le (byte : UInt8) (half : Half) : nibble byte half ≤ 0x0F := by
  have most : (0x0F : UInt8).toNat = 15 := rfl
  have small := byte.toNat_lt
  rw [UInt8.le_iff_toNat_le, most]
  cases half with
  | low =>
      rw [toNat_nibble_low]
      omega
  | high =>
      rw [toNat_nibble_high]
      omega

theorem nibble_of_le {value : UInt8} (small : value ≤ 0x0F) : nibble value .low = value := by
  have most : (0x0F : UInt8).toNat = 15 := rfl
  rw [UInt8.le_iff_toNat_le, most] at small
  apply UInt8.toNat_inj.1
  rw [toNat_nibble_low, Nat.mod_eq_of_lt (by omega)]

/-- Two nibbles that share a byte. -/
theorem nibble_shared (low high : UInt8) :
    nibble (low &&& (0x0F : UInt8) ||| (high &&& (0x0F : UInt8)) <<< 4) .low = nibble low .low
      ∧ nibble (low &&& (0x0F : UInt8) ||| (high &&& (0x0F : UInt8)) <<< 4) .high
        = nibble high .low := by
  constructor
  · apply UInt8.toBitVec_inj.1
    simp only [nibble]
    ext bit bound
    interval_cases bit <;> simp
  · apply UInt8.toBitVec_inj.1
    simp only [nibble]
    ext bit bound
    interval_cases bit <;> simp

end Byte

/-! ## Slots -/

namespace Collisions

def Narrow (buffer : Collisions) : Prop :=
  ∀ slot : Fin 16, buffer.get slot ≤ 0x0F

theorem get_ofNat (buffer : Collisions) (number : Nat) :
    buffer.get (Fin.ofNat 16 number) = buffer.get number := by
  simp [get, entryAt]

theorem get_of_slots {first second : Collisions} (same : first.slots = second.slots)
    (number : Nat) : first.get number = second.get number := by
  rw [get, get, same]

theorem narrow_empty : empty.Narrow := by
  intro slot
  simp [empty, get, entryAt]

section Narrow

variable {buffer : Collisions}

theorem Narrow.set (narrow : buffer.Narrow) (number : Nat) {value : UInt8}
    (small : value ≤ 0x0F) : (buffer.set number value).Narrow := by
  intro slot
  rw [get_set]
  split
  · exact small
  · exact narrow slot

theorem Narrow.withPair (narrow : buffer.Narrow) (first : Nat) (value : UInt8) :
    (buffer.withPair first value).Narrow :=
  (narrow.set first (Byte.nibble_le value .low)).set (first + 1) (Byte.nibble_le value .high)

theorem Narrow.raise (narrow : buffer.Narrow) (number : UInt8) {value : UInt8}
    (small : value ≤ 0x0F) : (buffer.raise number value).Narrow := by
  intro slot
  rw [get_raise]
  split
  · exact small
  · exact narrow slot

/-- **A meeting leaves nibbles**, for only the low nibbles of what meets count. -/
theorem Narrow.meet (narrow : buffer.Narrow) (number existing : UInt8) :
    (buffer.meet number existing).Narrow := by
  unfold Collisions.meet
  extract_lets low found
  split
  · exact narrow
  · split
    · exact narrow
    · exact (narrow.raise low (Byte.nibble_le existing .low)).raise found
        (Byte.nibble_le number .low)

/-- The byte that two slots are read as tells both. -/
theorem Narrow.nibble_pair (narrow : buffer.Narrow) (first : Nat) :
    Byte.nibble (buffer.pair first) .low = buffer.get first
      ∧ Byte.nibble (buffer.pair first) .high = buffer.get (first + 1) := by
  have small (number : Nat) : Byte.nibble (buffer.get number) .low = buffer.get number := by
    rw [← buffer.get_ofNat number]
    exact Byte.nibble_of_le (narrow (Fin.ofNat 16 number))
  obtain ⟨low, high⟩ := Byte.nibble_shared (buffer.get first) (buffer.get (first + 1))
  exact ⟨low.trans (small first), high.trans (small (first + 1))⟩

end Narrow

theorem get_zero_raise (buffer : Collisions) {number value : UInt8} (named : number ≠ 0)
    (small : number ≤ 0x0F) : (buffer.raise number value).get 0 = buffer.get 0 := by
  have other : ¬(Fin.ofNat 16 number.toNat = 0 ∧ buffer.get ((0 : Fin 16) : Nat) < value) := by
    rintro ⟨zero, _⟩
    have most : (0x0F : UInt8).toNat = 15 := rfl
    have below := Fin.val_eq_of_eq zero
    rw [UInt8.le_iff_toNat_le, most] at small
    rw [Fin.val_ofNat, Nat.mod_eq_of_lt (by omega)] at below
    exact named (UInt8.toNat_inj.1 below)
  exact (buffer.get_raise number value 0).trans (if_neg other)

/-- **Slot zero takes no part in meetings**, for neither the number zero nor a pixel
of zero meets anything. -/
theorem get_zero_meet (buffer : Collisions) (number existing : UInt8) :
    (buffer.meet number existing).get 0 = buffer.get 0 := by
  unfold meet
  extract_lets low found
  split
  · rfl
  · rename_i named
    split
    · rfl
    · rename_i filled
      rw [get_zero_raise _ filled (Byte.nibble_le existing .low),
        get_zero_raise _ named (Byte.nibble_le number .low)]

/-- Of the pairs that can be filled, only the first holds slot zero. -/
theorem get_zero_withPair (buffer : Collisions) {first : Nat} (inside : first + 1 < 16)
    (value : UInt8) :
    (buffer.withPair first value).get 0
      = if first = 0 then Byte.nibble value .low else buffer.get 0 := by
  have second : Fin.ofNat 16 (first + 1) ≠ 0 := by
    intro zero
    have place := Fin.val_eq_of_eq zero
    rw [Fin.val_ofNat, Nat.mod_eq_of_lt inside] at place
    cases place
  have outer := (buffer.set first (Byte.nibble value .low)).get_set (first + 1)
    (Byte.nibble value .high) 0
  have inner := buffer.get_set first (Byte.nibble value .low) 0
  rw [if_neg second] at outer
  refine (outer.trans inner).trans (if_congr ?_ rfl rfl)
  rw [Fin.ext_iff, Fin.val_ofNat, Nat.mod_eq_of_lt (by omega), Fin.val_zero]

end Collisions

/-! ## Drawing -/

section Meetings

variable {Keeps : Collisions → Prop}
  (meets : ∀ buffer number existing, Keeps buffer → Keeps (buffer.meet number existing))

include meets

theorem Brush.keeps_plot (brush : Brush) {canvas : Canvas} (x y : Int) (pen : UInt8)
    (keeps : Keeps canvas.collisions) : Keeps (brush.plot canvas x y pen).2.collisions := by
  rcases brush.plot_cases canvas x y pen with same | same | same | ⟨value, _, _, same⟩
  · rw [same]
    exact keeps
  · rw [same]
    exact keeps
  · rw [same]
    exact keeps
  · rw [same]
    dsimp only
    unfold collide
    split
    · split
      · exact meets _ _ _ keeps
      · exact keeps
    · exact keeps

theorem Sprite.keeps_plotAll (brush : Brush) (placements : List Placement) :
    ∀ canvas : Canvas, Keeps canvas.collisions →
      Keeps (Painted.plotAll brush canvas placements).collisions := by
  induction placements with
  | nil => exact fun _ keeps => keeps
  | cons placement rest recurse =>
      intro canvas keeps
      exact recurse _ (brush.keeps_plot meets placement.x placement.y placement.pen keeps)

/-- **What every meeting keeps of the slots, a visit keeps.** -/
theorem Chain.keeps_visit (walk : Walk) (address : UInt16)
    (keeps : Keeps walk.registers.collisions) :
    Keeps (walk.visit address).registers.collisions := by
  cases skips : (walk.fetched address).descriptor.control.skip with
  | true =>
      rw [visit_of_skip skips]
      exact keeps
  | false =>
      rw [visit_of_draw skips]
      show Keeps (walk.drawing address).canvas.collisions
      obtain ⟨count, painted⟩ := Sprite.canvas_draw
        (scene walk.registers (walk.fetched address).descriptor.control)
        (walk.fetched address).descriptor (walk.fetched address).latches
        ⟨(walk.fetched address).memory, walk.registers.collisions⟩
      unfold Walk.drawing
      rw [painted]
      exact Sprite.keeps_plotAll meets _ _ _ keeps

end Meetings

/-! ## Palettes -/

namespace Sprite

def Latches.Narrow (latches : Latches) : Prop :=
  ∀ index : Fin 16, entryAt latches.palette index ≤ 0x0F

theorem narrow_initial : Latches.initial.Narrow := by
  unfold Latches.Narrow
  decide

theorem narrow_unpackPalette (bytes : List UInt8) (index : Fin 16) :
    entryAt (unpackPalette bytes) index ≤ 0x0F := by
  simp only [entryAt, unpackPalette, Vector.getElem_ofFn, Fin.getElem_fin]
  exact Byte.nibble_le _ _

/-- A palette that a descriptor carries is unpacked from nibbles. -/
theorem Latches.Narrow.reloaded {latches : Latches} (narrow : latches.Narrow) (control : Control)
    (memory : Memory) (address : UInt16) :
    (latches.reloaded control memory address).Narrow := by
  intro index
  unfold Latches.reloaded
  dsimp only
  split
  · exact narrow_unpackPalette _ index
  · exact narrow index

theorem Latches.Narrow.fetch {latches : Latches} (narrow : latches.Narrow) (memory : Metered)
    (address : UInt16) : (Descriptor.fetch memory address latches).latches.Narrow := by
  cases skips : (Descriptor.ofMemory memory.memory address).control.skip with
  | true =>
      rw [fetch_of_skip latches skips]
      exact narrow
  | false =>
      rw [fetch_of_draws latches skips]
      exact narrow.reloaded _ _ _

theorem Latches.Narrow.draw {latches : Latches} (narrow : latches.Narrow) (scene : Scene)
    (descriptor : Descriptor) (canvas : Canvas) :
    (Sprite.draw scene descriptor latches canvas).latches.Narrow := by
  intro index
  rw [(spares_draw scene descriptor latches canvas).palette]
  exact narrow index

end Sprite

/-! ## Runs -/

structure Registers.Narrow (registers : Registers) : Prop where
  slots : registers.collisions.Narrow
  palette : registers.latches.Narrow

namespace Chain

theorem narrow_visit (walk : Walk) (address : UInt16) (narrow : walk.registers.Narrow) :
    (walk.visit address).registers.Narrow where
  slots := keeps_visit (fun _ number existing slots => slots.meet number existing) walk address
    narrow.slots
  palette := by
    have fetched : (walk.fetched address).latches.Narrow := narrow.palette.fetch _ _
    cases skips : (walk.fetched address).descriptor.control.skip with
    | true =>
        rw [visit_of_skip skips]
        exact fetched
    | false =>
        rw [visit_of_draw skips]
        exact fetched.draw _ _ _

end Chain

namespace Run

/-- What each visit keeps of the registers, a run keeps. -/
theorem keeps_registers (Keeps : Registers → Prop)
    (granted : ∀ registers, Keeps registers → Keeps { registers with stopRequested := false })
    (visited : ∀ (walk : Chain.Walk) address, Keeps walk.registers →
      Keeps (walk.visit address).registers)
    (budget : Nat) {registers : Registers} (memory : Memory) (keeps : Keeps registers) :
    Keeps (ofRegisters budget registers memory).registers :=
  (Chain.run_spec (fun walk => Keeps walk.registers) (fun _ => True)
    (fun walk kept => granted walk.registers kept)
    (fun walk address kept => by
      obtain ⟨visit, latest⟩ := Chain.exists_visit walk address
      exact ⟨visited walk address kept, visit, latest, trivial⟩)
    budget ⟨registers, Metered.fresh memory, []⟩ keeps).1

/-- **A run leaves nibbles**, whatever it finds in memory. -/
theorem narrow_registers (budget : Nat) {registers : Registers} (memory : Memory)
    (narrow : registers.Narrow) : (ofRegisters budget registers memory).registers.Narrow :=
  keeps_registers Registers.Narrow (fun _ kept => ⟨kept.slots, kept.palette⟩) Chain.narrow_visit
    budget memory narrow

/-- **No run reaches slot zero**, whatever it finds in memory. -/
theorem get_zero_registers (budget : Nat) (registers : Registers) (memory : Memory) :
    (ofRegisters budget registers memory).registers.collisions.get 0
      = registers.collisions.get 0 := by
  have meets (buffer : Collisions) (number existing : UInt8)
      (same : buffer.get 0 = registers.collisions.get 0) :
      (buffer.meet number existing).get 0 = registers.collisions.get 0 :=
    (buffer.get_zero_meet number existing).trans same
  exact keeps_registers (fun later => later.collisions.get 0 = registers.collisions.get 0)
    (fun _ kept => kept) (fun walk address => Chain.keeps_visit meets walk address) budget memory rfl

end Run

/-! ## Accesses over the bus -/

/-- The register at offset zero has the first two slots; no other has slot zero. -/
theorem Register.depository_of_offset {offset : UInt8} {first : Nat}
    (named : ofOffset offset = .depository first) :
    (offset = 0 ∧ first = 0) ∨ (offset ≠ 0 ∧ 0 < first ∧ first + 1 < 16) := by
  have found : depository? offset = some first := by
    unfold ofOffset at named
    split at named
    · rename_i found
      rwa [Register.depository.inj named] at found
    · split at named
      · split at named <;> cases named
      · unfold plainOfOffset at named
        split at named <;> cases named
  by_cases zero : offset = 0
  · subst zero
    exact Or.inl ⟨rfl, (Option.some.inj found).symm⟩
  · have positive : offset.toNat ≠ 0 := fun none => zero (UInt8.toNat_inj.1 none)
    refine Or.inr ⟨zero, ?_⟩
    unfold depository? at found
    split at found
    · have place := Option.some.inj found
      omega
    · split at found
      · have place := Option.some.inj found
        omega
      · cases found

namespace Board

variable {socket : Type} [CartridgeSocket socket]

omit [CartridgeSocket socket] in
/-- A start leaves the registers of a run, or those that it was requested with. -/
theorem registers_writeGo (board : Board socket) (value : UInt8) :
    let requested := board.chip.registers.started value
    let after := (board.writeGo value).chip.registers
    after = (Run.ofRegisters board.chip.config.budget requested board.memory).settled
      ∨ after = requested := by
  intro requested after
  by_cases starts : Byte.flagged value 0x01 = true
  · cases enabled : board.chip.registers.busEnabled with
    | true =>
        left
        show (board.writeGo value).chip.registers = _
        rw [writeGo_of_start enabled starts]
        rfl
    | false =>
        right
        show (board.writeGo value).chip.registers = _
        rw [writeGo_of_disabled enabled starts]
        rfl
  · right
    show (board.writeGo value).chip.registers = _
    rw [writeGo, if_neg starts]
    rfl

/-- **A write to a register** fills two slots, lets the engine run, or leaves slots
and palette alone. -/
theorem slots_writeRegister (board : Board socket) (offset value : UInt8) :
    let before := board.chip.registers
    let after := (board.writeRegister offset value).chip.registers
    (∃ first, Register.ofOffset offset = .depository first
        ∧ after.collisions = before.collisions.withPair first value
        ∧ after.latches = before.latches)
      ∨ (offset ≠ 0 ∧ ∃ budget memory,
        after = (Run.ofRegisters budget (before.started value) memory).settled)
      ∨ (offset ≠ 0 ∧ after.collisions.slots = before.collisions.slots
        ∧ after.latches = before.latches) := by
  intro before after
  -- The register at offset zero is one of the depository.
  have elsewhere (other : ∀ first, Register.ofOffset offset ≠ .depository first) : offset ≠ 0 := by
    rintro rfl
    exact other 0 rfl
  unfold after writeRegister
  extract_lets
  cases named : Register.ofOffset offset with
  | depository => exact Or.inl ⟨_, rfl, rfl, rfl⟩
  | spriteGo =>
      have apart := elsewhere (by simp [named])
      rcases board.registers_writeGo value with ran | waits
      · exact Or.inr (Or.inl ⟨apart, _, _, ran⟩)
      · refine Or.inr (Or.inr ⟨apart, ?_⟩)
        dsimp only
        rw [waits]
        exact ⟨rfl, rfl⟩
  | system =>
      refine Or.inr (Or.inr ⟨elsewhere (by simp [named]), ?_, rfl⟩)
      dsimp only [withRegisters, Registers.withSystem]
      split
      · rfl
      · rfl
  | word register =>
      refine Or.inr (Or.inr ⟨elsewhere (by simp [named]), ?_⟩)
      cases register <;> exact ⟨rfl, rfl⟩
  | byte register =>
      refine Or.inr (Or.inr ⟨elsewhere (by simp [named]), ?_⟩)
      cases register <;> exact ⟨rfl, rfl⟩
  | _ => exact Or.inr (Or.inr ⟨elsewhere (by simp [named]), rfl, rfl⟩)

end Board

namespace Console

def depositoryAddress : UInt16 := 0xFC00

/-- The register that shows a slot. The later eight slots lie apart from the first. -/
def slotAddress (slot : Fin 16) : UInt16 :=
  if slot.val < 8 then depositoryAddress + UInt16.ofNat (slot / 2)
  else depositoryAddress + UInt16.ofNat (0x0C + (slot - 8) / 2)

/-- The part of its register that shows a slot. -/
def slotHalf (slot : Fin 16) : Half :=
  if slot.val % 2 = 0 then .low else .high

/-- **The depository registers show every slot** that holds a nibble. -/
theorem nibble_read_slotAddress {console : Console}
    (narrow : console.board.chip.registers.collisions.Narrow) (slot : Fin 16) :
    Byte.nibble (console.read (slotAddress slot)).1 (slotHalf slot)
      = console.board.chip.registers.collisions.get slot := by
  have reached : reachesChip (slotAddress slot) = true := by
    revert slot
    decide
  have found : Register.ofOffset (Word.byte (slotAddress slot) .low)
      = .depository (slot.val / 2 * 2) := by
    revert slot
    decide
  have pair : (console.read (slotAddress slot)).1
      = console.board.chip.registers.collisions.pair (slot.val / 2 * 2) := by
    obtain ⟨board, palette⟩ := console
    simp only [read, reached, if_true, Board.readRegister, found]
  obtain ⟨low, high⟩ := narrow.nibble_pair (slot.val / 2 * 2)
  rw [pair, slotHalf]
  split
  · have even : slot.val / 2 * 2 = slot := by omega
    rw [low, even]
  · have odd : slot.val / 2 * 2 + 1 = slot := by omega
    rw [high, odd]

theorem eq_depositoryAddress_iff {address : UInt16} (onPage : reachesChip address = true) :
    address = depositoryAddress ↔ Word.byte address .low = 0 := by
  constructor
  · rintro rfl
    decide
  · exact fun first => address_eq_of_offset onPage (by decide) (first.trans (by decide))

/-- **A write leaves nibbles.** -/
theorem narrow_write {console : Console} (narrow : console.board.chip.registers.Narrow)
    (address : UInt16) (value : UInt8) :
    (console.write address value).board.chip.registers.Narrow := by
  obtain ⟨board, palette⟩ := console
  by_cases onPage : reachesChip address = true
  · simp only [write, onPage, if_true]
    rcases board.slots_writeRegister (Word.byte address .low) value with
      ⟨first, _, filled, loaded⟩ | ⟨_, budget, memory, ran⟩ | ⟨_, kept, loaded⟩
    · refine ⟨?_, ?_⟩
      · rw [filled]
        exact narrow.slots.withPair first value
      · rw [loaded]
        exact narrow.palette
    · rw [ran]
      have started : (board.chip.registers.started value).Narrow := ⟨narrow.slots, narrow.palette⟩
      obtain ⟨slots, pens⟩ := Run.narrow_registers budget memory started
      exact ⟨slots, pens⟩
    · refine ⟨?_, ?_⟩
      · intro slot
        rw [Collisions.get_of_slots kept]
        exact narrow.slots slot
      · rw [loaded]
        exact narrow.palette
  · simp only [write, onPage]
    exact narrow

/-- **A write changes slot zero at the first depository register alone.** -/
theorem get_zero_write (console : Console) (address : UInt16) (value : UInt8) :
    (console.write address value).board.chip.registers.collisions.get 0
      = if address = depositoryAddress then Byte.nibble value .low
        else console.board.chip.registers.collisions.get 0 := by
  obtain ⟨board, palette⟩ := console
  by_cases onPage : reachesChip address = true
  · simp only [write, onPage, if_true, eq_depositoryAddress_iff onPage]
    rcases board.slots_writeRegister (Word.byte address .low) value with
      ⟨first, named, filled, _⟩ | ⟨elsewhere, budget, memory, ran⟩ | ⟨elsewhere, kept, _⟩
    · rcases Register.depository_of_offset named with
        ⟨zero, rfl⟩ | ⟨elsewhere, later, inside⟩
      · rw [filled, Collisions.get_zero_withPair _ (by decide), if_pos rfl, if_pos zero]
      · rw [filled, Collisions.get_zero_withPair _ inside, if_neg (by omega), if_neg elsewhere]
    · rw [ran, if_neg elsewhere]
      exact Run.get_zero_registers budget (board.chip.registers.started value) memory
    · rw [if_neg elsewhere, Collisions.get_of_slots kept]
  · have elsewhere : address ≠ depositoryAddress := by
      rintro rfl
      exact onPage (by decide)
    rw [if_neg elsewhere]
    simp only [write, onPage]
    rfl

/-! ## Actions -/

/-- The registers that an action puts in place of those there were, if it does. -/
def Action.replacement? (before : Console) : Action → Option Registers
  | .reset => some before.board.chip.reset.registers
  | .mount slot image =>
      if (before.mount slot image).isOk then some before.board.chip.reset.registers else none
  | .restore document => (Snapshot.ofJson document).toOption.map Snapshot.registers
  | .restoreChip document => (Chip.savedRegisters (document.content .chip)).toOption
  | _ => none

/-- What an action puts into slot zero, if it does: the low nibble of what is written
to the first depository register, or what replaces it with all other registers. -/
def Action.zeroSlot? (before : Console) : Action → Option UInt8
  | .write address value =>
      if address = depositoryAddress then some (Byte.nibble value .low) else none
  | action => (action.replacement? before).map fun registers => registers.collisions.get 0

/-- **An action other than a write** leaves slots and palette alone unless it replaces
all registers. -/
theorem slots_perform (console : Console) {action : Action}
    (unwritten : ∀ address value, action ≠ .write address value) :
    let after := (console.perform action).board.chip.registers
    let expected := (action.replacement? console).getD console.board.chip.registers
    after.collisions = expected.collisions ∧ after.latches = expected.latches := by
  intro after expected
  have of_chip (same : (console.perform action).board.chip = console.board.chip)
      (kept : action.replacement? console = none) :
      after.collisions = expected.collisions ∧ after.latches = expected.latches := by
    unfold after expected
    rw [same, kept]
    exact ⟨rfl, rfl⟩
  cases action with
  | write address value => exact absurd rfl (unwritten address value)
  | read address => exact of_chip (console.untouched_read address).chip rfl
  | insert image => exact of_chip (console.untouched_insert image).chip rfl
  | unmount slot => exact of_chip (console.untouched_unmount slot).chip rfl
  | collectStall => exact of_chip console.chip_collectStall rfl
  | load | handle | joystick | switches | configure | recolour | reset => exact ⟨rfl, rfl⟩
  | mount slot image =>
      unfold after expected
      rw [perform, Action.replacement?]
      rcases console.mount_cases slot image with ⟨inserted, fits⟩ | ⟨error, refused⟩
      · rw [fits]
        exact ⟨rfl, rfl⟩
      · rw [refused]
        exact ⟨rfl, rfl⟩
  | restore document =>
      unfold after expected
      rw [perform_restore, Action.replacement?]
      cases Snapshot.ofJson document <;> exact ⟨rfl, rfl⟩
  | restoreChip document =>
      unfold after expected
      rw [perform_restoreChip, Action.replacement?]
      cases Chip.savedRegisters (document.content .chip) <;> exact ⟨rfl, rfl⟩

def Narrow (console : Console) : Prop :=
  console.board.chip.registers.Narrow

/-- The registers at power-on are narrow, and so are those that were saved so. -/
theorem narrow_replacement (console : Console) {action : Action}
    (restores : action.From Narrow) {registers : Registers}
    (replaced : action.replacement? console = some registers) : registers.Narrow := by
  have reset : console.board.chip.reset.registers.Narrow :=
    ⟨Collisions.narrow_empty, Sprite.narrow_initial⟩
  cases action with
  | reset => exact Option.some.inj replaced ▸ reset
  | mount slot image =>
      rw [Action.replacement?] at replaced
      split at replaced
      · exact Option.some.inj replaced ▸ reset
      · cases replaced
  | restore document =>
      obtain ⟨saved, narrow, rfl⟩ := restores document rfl
      rw [Action.replacement?, ofJson_save] at replaced
      exact Option.some.inj replaced ▸ narrow
  | restoreChip document =>
      obtain ⟨saved, narrow, rfl⟩ := restores document rfl
      rw [Action.replacement?, savedRegisters_content_save] at replaced
      exact Option.some.inj replaced ▸ narrow
  | _ => cases replaced

/-- **No action leaves more than nibbles**, if what it restores was saved with no
more. -/
theorem narrow_perform (console : Console) (action : Action) (narrow : console.Narrow)
    (restores : action.From Narrow) : (console.perform action).Narrow := by
  by_cases written : ∃ address value, action = .write address value
  · obtain ⟨address, value, rfl⟩ := written
    exact narrow_write narrow address value
  · obtain ⟨slots, palette⟩ :=
      console.slots_perform fun address value same => written ⟨address, value, same⟩
    have expected : ((action.replacement? console).getD console.board.chip.registers).Narrow := by
      cases replaced : action.replacement? console with
      | none => exact narrow
      | some registers => exact console.narrow_replacement restores replaced
    refine ⟨?_, ?_⟩
    · rw [slots]
      exact expected.slots
    · rw [palette]
      exact expected.palette

/-- **Slot zero after an action** is what the action puts there, or what was there. -/
theorem get_zero_perform (console : Console) (action : Action) :
    (console.perform action).board.chip.registers.collisions.get 0
      = (action.zeroSlot? console).getD (console.board.chip.registers.collisions.get 0) := by
  by_cases written : ∃ address value, action = .write address value
  · obtain ⟨address, value, rfl⟩ := written
    rw [perform, get_zero_write, Action.zeroSlot?]
    split
    · rfl
    · rfl
  · have unwritten (address : UInt16) (value : UInt8) : action ≠ .write address value :=
      fun same => written ⟨address, value, same⟩
    have put : action.zeroSlot? console
        = (action.replacement? console).map fun registers => registers.collisions.get 0 := by
      cases action with
      | write address value => exact absurd rfl (unwritten address value)
      | _ => rfl
    rw [(console.slots_perform unwritten).1, put]
    cases action.replacement? console <;> rfl

/-- **Slots and palette are tables of nibbles, and slot zero is no sprite's.** After
any actions from power-on that restore nothing but saved states, every collision
slot and every pen of the palette is at most fifteen. The eight depository registers
therefore show each slot as it is. Whatever is done next, slot zero stays unless it
is written through the first of these registers or replaced with all registers, by a
reset, by the mounting of a cartridge or by a state that is restored; no run reaches
it, whatever is in memory. -/
theorem slots_hold_nibbles (config : Config) {actions : List Action}
    (genuine : Genuine actions) :
    let console := (powerOn config).after actions
    let registers := console.board.chip.registers
    ((∀ slot : Fin 16, registers.collisions.get slot ≤ 0x0F)
        ∧ ∀ index : Fin 16, entryAt registers.latches.palette index ≤ 0x0F)
      ∧ (∀ slot : Fin 16, Byte.nibble (console.read (slotAddress slot)).1 (slotHalf slot)
          = registers.collisions.get slot)
      ∧ (∀ action, (console.perform action).board.chip.registers.collisions.get 0
          = (action.zeroSlot? console).getD (registers.collisions.get 0))
      ∧ ∀ budget memory,
          (Run.ofRegisters budget registers memory).registers.collisions.get 0
            = registers.collisions.get 0 := by
  intro console registers
  have narrow : console.Narrow :=
    keeps_of_genuine (fun _ => ⟨Collisions.narrow_empty, Sprite.narrow_initial⟩) narrow_perform
      config genuine
  exact ⟨⟨narrow.slots, narrow.palette⟩, nibble_read_slotAddress narrow.slots,
    console.get_zero_perform, fun budget => Run.get_zero_registers budget registers⟩

theorem registers_restore_save (console saved : Console) :
    (console.after [.restore saved.save]).board.chip.registers = saved.board.chip.registers := by
  show (console.perform (.restore saved.save)).board.chip.registers = _
  rw [perform_restore, ofJson_save]
  rfl

theorem genuine_restore {document : Json} (saved : Saved document) :
    Genuine [.restore document] := by
  intro action among other has
  rw [List.mem_singleton.1 among] at has
  rw [← Option.some.inj has]
  exact saved

/-- Two slots are filled and come back with a state that was saved then, until a reset
clears them. -/
theorem restored_slots_hold_nibbles :
    let early := (powerOn Config.standard).after [.write 0xFC00 0xA5]
    let late := (powerOn Config.standard).after [.restore early.save]
    Byte.nibble (late.read 0xFC00).1 .low = 0x5 ∧ Byte.nibble (late.read 0xFC00).1 .high = 0xA
      ∧ (late.perform .reset).board.chip.registers.collisions.get 0 = 0 := by
  have saved : Saved ((powerOn Config.standard).after [.write 0xFC00 0xA5]).save := by
    apply Saved.after
    intro action among document has
    rw [List.mem_singleton.1 among] at has
    cases has
  obtain ⟨_, shown, put, _⟩ := slots_hold_nibbles Config.standard (genuine_restore saved)
  -- The document spells out all of memory, so nothing here may evaluate it.
  rw [registers_restore_save] at shown put
  intro early late
  have filled : early.board.chip.registers.collisions.get 0 = 0x5
      ∧ early.board.chip.registers.collisions.get 1 = 0xA := ⟨rfl, rfl⟩
  exact ⟨(shown 0).trans filled.1, (shown 1).trans filled.2, put .reset⟩

end Console

end LynxSuzy
