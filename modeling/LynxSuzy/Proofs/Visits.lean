import LynxSuzy.Proofs.Footprint
import LynxSuzy.Proofs.Layout
import LynxSuzy.Proofs.Resuming
import Mathlib.Tactic.IntervalCases

/-!
Contract: a visit that draws its sprite, and starts whose run is known.

Owns: what a visit reads, leaves and cannot reach when its descriptor is not to
be skipped, in terms of memory as the visit finds it; pointing the engine at a
descriptor; and what a start leaves when its run comes to its end.

Does **not** own: what the sprite looks like (`Proofs.Coverage`).
-/

set_option autoImplicit false

namespace LynxSuzy

namespace Chain

open Sprite (Descriptor)

/-- An address that is neither in the frame buffer nor the depository of the
descriptor at `head`. -/
def OutOfReach (registers : Registers) (head address : UInt16) : Prop :=
  Screen.inFrame registers.videoBase address = false ∧ address ≠ head + registers.collisionOffset

section Stage

variable {first second : Registers}
  (stage : ∀ control, scene first control = scene second control)

include stage

theorem videoBase_of_stage : first.videoBase = second.videoBase :=
  congrArg Sprite.Scene.videoBase (stage (Sprite.Control.decode 0 0 0))

/-- Registers that set the same stage for every sprite, and the same depository,
put the same addresses out of reach. -/
theorem outOfReach_of_stage (offset : first.collisionOffset = second.collisionOffset)
    {head address : UInt16} : OutOfReach first head address ↔ OutOfReach second head address := by
  rw [OutOfReach, OutOfReach, videoBase_of_stage stage, offset]

end Stage

theorem Link.eq_of_active {address active : UInt16}
    (found : Link.ofAddress address = .active active) : address = active := by
  unfold Link.ofAddress at found
  split at found
  · cases found
  · exact Link.active.inj found

section Drawn

variable {walk : Walk} {head : UInt16}
  (drawn : (Descriptor.ofMemory walk.memory.memory head).control.skip = false)

include drawn

theorem fetched_of_drawn :
    walk.fetched head
      = ⟨Descriptor.ofMemory walk.memory.memory head,
          walk.registers.latches.reloaded (Descriptor.ofMemory walk.memory.memory head).control
            walk.memory.memory head,
          walk.memory.charged
            (Descriptor.ofMemory walk.memory.memory head).control.descriptorBytes⟩ :=
  Sprite.fetch_of_draws _ drawn

theorem drawing_of_drawn :
    let sprite := Descriptor.ofMemory walk.memory.memory head
    walk.drawing head
      = Sprite.draw (scene walk.registers sprite.control) sprite
          (walk.registers.latches.reloaded sprite.control walk.memory.memory head)
          ⟨walk.memory.charged sprite.control.descriptorBytes, walk.registers.collisions⟩ := by
  unfold Walk.drawing
  rw [fetched_of_drawn drawn]

theorem visit_of_drawn :
    let sprite := Descriptor.ofMemory walk.memory.memory head
    let drawing := walk.drawing head
    (walk.visit head).registers
        = depart walk.registers sprite drawing.latches drawing.canvas.collisions
      ∧ (walk.visit head).memory = deposit walk.registers sprite drawing := by
  have draws : (walk.fetched head).descriptor.control.skip = false := by
    rw [fetched_of_drawn drawn]
    exact drawn
  rw [visit_of_draw draws, fetched_of_drawn drawn]
  exact ⟨rfl, rfl⟩

/-- **A visit leaves alone what is out of its reach.** -/
theorem get_outOfReach {address : UInt16} (outOfReach : OutOfReach walk.registers head address) :
    (walk.visit head).memory.memory.get address = walk.memory.memory.get address := by
  obtain ⟨outside, apart⟩ := outOfReach
  rw [(visit_of_drawn drawn).2]
  by_contra changed
  have painted : (walk.drawing head).canvas.memory.memory.get address
      = walk.memory.memory.get address := by
    rw [drawing_of_drawn drawn]
    exact Sprite.draw_agreeOutside _ _ _ _ address outside
  rw [← painted] at changed
  exact apart (get_deposit changed).2

/-- In the frame buffer a visit leaves what it draws. -/
theorem get_frame
    (depository : Screen.inFrame walk.registers.videoBase (head + walk.registers.collisionOffset)
      = false)
    {target : UInt16} (inside : Screen.inFrame walk.registers.videoBase target = true) :
    (walk.visit head).memory.memory.get target
      = (walk.drawing head).canvas.memory.memory.get target := by
  rw [(visit_of_drawn drawn).2]
  by_contra changed
  have place := (get_deposit changed).2
  rw [place] at inside
  exact Bool.false_ne_true (depository.symm.trans inside)

end Drawn

end Chain

/-! ## Starts -/

theorem Word.withByte_byte (word target : UInt16) :
    withByte (withByte word (byte target .low) .low) (byte target .high) .high = target := by
  apply UInt16.toBitVec_inj.1
  simp only [withByte, byte]
  ext bit bound
  interval_cases bit <;> simp [-UInt16.toUInt16_toUInt8]

/-- Point the engine at a descriptor, a byte at a time. -/
def Console.pointedAt (console : Console) (head : UInt16) : Console :=
  (console.write 0xFC10 (Word.byte head .low)).write 0xFC11 (Word.byte head .high)

theorem Console.board_pointedAt (console : Console) (head : UInt16) :
    (console.pointedAt head).board
      = console.board.withRegisters
          { console.board.chip.registers with nextDescriptor := head } := by
  obtain ⟨board, palette⟩ := console
  have onPage : reachesChip 0xFC10 = true ∧ reachesChip 0xFC11 = true := by decide
  have low : Register.ofOffset (Word.byte 0xFC10 .low) = .word .nextDescriptor .low := by decide
  have high : Register.ofOffset (Word.byte 0xFC11 .low) = .word .nextDescriptor .high := by decide
  simp only [pointedAt, write, onPage, if_true, Board.writeRegister, low, high,
    Board.withRegisters, Registers.word, Registers.withWord, Word.withByte_byte]

/-- What a start leaves is what its run ends with, at rest. -/
theorem board_start_of_run {console : Console} {value : UInt8} {after : Chain.Walk}
    {exit : Chain.Exit}
    (enabled : console.board.chip.registers.busEnabled = true)
    (starts : Byte.flagged value 0x01 = true)
    (ran : Chain.Walk.run console.board.chip.config.budget
      ⟨console.board.chip.registers.started value, Metered.fresh console.board.memory, []⟩
        = (after, exit)) :
    let board := (console.write Console.startAddress value).board
    board.memory = after.memory.memory
      ∧ board.chip.registers = { after.registers with working := false, spriteGo := false }
      ∧ board.chip.config = console.board.chip.config := by
  intro board
  have run : Run.ofRegisters console.board.chip.config.budget
      (console.board.chip.registers.started value) console.board.memory
        = ⟨after.registers, after.memory, after.visits, exit⟩ := by
    unfold Run.ofRegisters
    rw [ran]
  have started := board_start enabled starts
  rw [run] at started
  rw [show board = _ from started]
  exact ⟨rfl, rfl, rfl⟩

end LynxSuzy
