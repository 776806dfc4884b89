import LynxSuzy.Proofs.Independence

/-!
Contract: sprites that have nothing to do with each other can be drawn in either
order.

Owns: starts on the two chains that two independent sprites can be linked to,
and the screen and the collision buffer that both leave.

Does **not** own: sprites that hand latches on, or the depositories, which hold
what a sprite had met when it was drawn.
-/

set_option autoImplicit false

namespace LynxSuzy

/-- A request that does not let the engine run leaves the collision buffer. -/
theorem Board.collisions_writeGo {socket : Type} {board : Board socket} {value : UInt8}
    (still : Byte.flagged value 0x01 = true → board.chip.registers.busEnabled = false) :
    (board.writeGo value).chip.registers.collisions = board.chip.registers.collisions := by
  unfold writeGo
  by_cases requested : Byte.flagged value 0x01 = true
  · rw [if_pos requested, start, if_neg (by simp [withRegisters, still requested])]
    rfl
  · rw [if_neg requested]
    rfl

theorem board_write_of_not_starts {console : Console} {value : UInt8}
    (still : ¬console.Starts Console.startAddress value) :
    let board := (console.write Console.startAddress value).board
    board.memory = console.board.memory
      ∧ board.chip.registers.collisions = console.board.chip.registers.collisions := by
  have reached : Console.reachesChip Console.startAddress = true := by decide
  have found : Register.ofOffset (Word.byte Console.startAddress .low) = .spriteGo := by decide
  refine ⟨Console.memory_write_of_not_starts reached still, ?_⟩
  obtain ⟨before, palette⟩ := console
  simp only [Console.write, reached, if_true, Board.writeRegister, found]
  apply Board.collisions_writeGo
  intro requested
  by_contra enabled
  rw [Bool.not_eq_false] at enabled
  exact still ⟨rfl, requested, enabled⟩

open Chain in
/-- What a start on a chain of two such sprites leaves on the screen. -/
theorem board_start_pair {console : Console} {memory : Memory} {first second : UInt16}
    {value : UInt8} (enabled : console.board.chip.registers.busEnabled = true)
    (unstopped : console.board.chip.registers.stopRequested = false)
    (limited : 2 ≤ console.board.chip.config.budget) (starts : Byte.flagged value 0x01 = true)
    (firstIndependent : Independent console.board.chip.registers memory first second)
    (secondIndependent : Independent console.board.chip.registers memory second first)
    (sameFirst : SameSprite memory console.board.memory first)
    (sameSecond : SameSprite memory console.board.memory second)
    (linked : LinkedPair console.board.memory first second) :
    let registers := console.board.chip.registers
    let after := ((console.pointedAt first).write Console.startAddress value).board
    (⟨Metered.fresh after.memory, after.chip.registers.collisions⟩ : Canvas).SameScreen
      registers.videoBase
      (Sprite.Painted.plotAll (brush registers memory second)
        (Sprite.Painted.plotAll (brush registers memory first)
          ⟨Metered.fresh console.board.memory, registers.collisions⟩
          (placements registers memory first))
        (placements registers memory second)) := by
  intro registers after
  let pointed := console.pointedAt first
  let walk : Walk :=
    ⟨{ registers with nextDescriptor := first }.started value,
      Metered.fresh console.board.memory, []⟩
  have board : pointed.board = _ := console.board_pointedAt first
  have showsFirst : walk.Shows registers memory first := ⟨fun _ => rfl, rfl, sameFirst⟩
  have showsSecond : walk.Shows registers memory second := ⟨fun _ => rfl, rfl, sameSecond⟩
  have ran : Walk.run pointed.board.chip.config.budget
      ⟨pointed.board.chip.registers.started value, Metered.fresh pointed.board.memory, []⟩
        = ((walk.visit first).visit second, .ended) := by
    rw [board]
    exact run_pair firstIndependent secondIndependent showsFirst showsSecond linked rfl unstopped
      limited
  have stillEnabled : pointed.board.chip.registers.busEnabled = true := by
    rw [board]
    exact enabled
  obtain ⟨left, settled, _⟩ := board_start_of_run stillEnabled starts ran
  have plotted := visits_plot firstIndependent secondIndependent showsFirst showsSecond
  constructor
  · intro target inside
    show after.memory.get target = _
    rw [left]
    exact plotted.frame target inside
  · show after.chip.registers.collisions = _
    rw [settled]
    exact plotted.collisions

open Chain in
/-- **Sprites that have nothing to do with each other can be drawn in either
order.** Two memories hold the same two sprites and the same frame buffer, and
link the sprites to a chain from one end and from the other. Both sprites are
drawn and reload every latch, their descriptors and the data that they are drawn
from are neither in the frame buffer nor depositories, their depositories are not
in the frame buffer, and no position is visited by both. Then starts on the two
chains leave the same frame buffer, the same collision slots and the same sticky
flag.

This holds for every kind of sprite, for sprites that meet what is on the screen
already or, with a tilt, themselves, and for any latches and collision buffer to
begin with. Where the engine may not use the bus, neither chain is run. -/
theorem independent_sprites_commute {console : Console} {forward backward : Memory}
    {first second : UInt16} (value : UInt8)
    (unstopped : console.board.chip.registers.stopRequested = false)
    (limited : 2 ≤ console.board.chip.config.budget)
    (firstIndependent : Independent console.board.chip.registers forward first second)
    (secondIndependent : Independent console.board.chip.registers forward second first)
    (sameFirst : SameSprite forward backward first)
    (sameSecond : SameSprite forward backward second)
    (frame : ∀ target, Screen.inFrame console.board.chip.registers.videoBase target = true →
      backward.get target = forward.get target)
    (linked : LinkedPair forward first second) (relinked : LinkedPair backward second first)
    (apart : List.Disjoint (visited console.board.chip.registers forward first)
      (visited console.board.chip.registers forward second)) :
    let ahead := ((console.withMemory forward).pointedAt first).write Console.startAddress value
    let back := ((console.withMemory backward).pointedAt second).write Console.startAddress value
    (∀ target, Screen.inFrame console.board.chip.registers.videoBase target = true →
      ahead.board.memory.get target = back.board.memory.get target)
      ∧ ahead.board.chip.registers.collisions = back.board.chip.registers.collisions := by
  intro ahead back
  let registers := console.board.chip.registers
  let here := brush registers forward first
  let there := brush registers forward second
  have begun : (⟨Metered.fresh forward, registers.collisions⟩ : Canvas).SameScreen
      registers.videoBase ⟨Metered.fresh backward, registers.collisions⟩ :=
    ⟨fun target inside => (frame target inside).symm, rfl⟩
  by_cases started : Byte.flagged value 0x01 = true ∧ registers.busEnabled = true
  case neg =>
    have still (memory : Memory) (head : UInt16) :
        ¬((console.withMemory memory).pointedAt head).Starts Console.startAddress value := by
      rintro ⟨_, requested, enabled⟩
      rw [Console.board_pointedAt] at enabled
      exact started ⟨requested, enabled⟩
    obtain ⟨aheadMemory, aheadCollisions⟩ := board_write_of_not_starts (still forward first)
    obtain ⟨backMemory, backCollisions⟩ := board_write_of_not_starts (still backward second)
    rw [Console.board_pointedAt] at aheadMemory aheadCollisions backMemory backCollisions
    refine ⟨?_, aheadCollisions.trans backCollisions.symm⟩
    intro target inside
    rw [aheadMemory, backMemory]
    exact begun.frame target inside
  obtain ⟨starts, enabled⟩ := started
  have unchanged (head : UInt16) : SameSprite forward forward head :=
    ⟨fun _ _ _ => rfl, fun _ _ _ => rfl, fun _ _ => rfl⟩
  have aheadPlots := @board_start_pair (console.withMemory forward) forward first second value
    enabled unstopped limited starts firstIndependent secondIndependent (unchanged first)
    (unchanged second) linked
  have backPlots := @board_start_pair (console.withMemory backward) forward second first value
    enabled unstopped limited starts secondIndependent firstIndependent sameSecond sameFirst
    relinked
  have firstOnScreen := Walk.Shows.placements_onScreen firstIndependent
  have secondOnScreen := Walk.Shows.placements_onScreen secondIndependent
  -- The order is changed on the screen of the one memory, and then the memory is.
  have swapped := @Sprite.plotAll_comm here there rfl
    ⟨Metered.fresh forward, registers.collisions⟩ _ _ firstOnScreen secondOnScreen apart
  have moved := @Sprite.plotAll_congr here _ _ _ firstOnScreen
    (@Sprite.plotAll_congr there _ _ _ secondOnScreen begun)
  have same := ((aheadPlots.trans swapped).trans moved).trans backPlots.symm
  exact ⟨same.frame, same.collisions⟩

/-! ## Two sprites in different corners -/

namespace TwoSprites

open Chain

def descriptor (link hpos vpos : UInt16) : List UInt8 :=
  [0xC4, 0xB0, 0x01, Word.byte link .low, Word.byte link .high, 0x00, 0x30,
    Word.byte hpos .low, Word.byte hpos .high, Word.byte vpos .low, Word.byte vpos .high,
    0x00, 0x01, 0x00, 0x01, 0x00, 0x00, 0x00, 0x00,
    0x01, 0x23, 0x45, 0x67, 0x89, 0xAB, 0xCD, 0xEF]

def control : Sprite.Control := Sprite.Control.decode 0xC4 0xB0 0x01

def memory (firstLink secondLink : UInt16) : Memory :=
  (((Memory.filled 0).load 0x2000 (descriptor firstLink 0 0)).load 0x2100
    (descriptor secondLink 80 40)).load 0x3000 Sprite.sampleBytes

def forward : Memory := memory 0x2100 0

def backward : Memory := memory 0 0x2000

def registers : Registers :=
  { Registers.initial with
    busEnabled := true
    videoBase := 0xC000
    collisionOffset := 0x0200 }

def console : Console where
  board :=
    { chip := ⟨registers, Config.standard, none⟩
      memory := Memory.filled 0
      socket := none
      charges := []
      reversedNotices := [] }
  palette := Console.greys

theorem get_memory (firstLink secondLink target : UInt16) :
    (memory firstLink secondLink).get target
      = (Sprite.sampleBytes[(target - 0x3000).toNat]?).getD
          (((descriptor secondLink 80 40)[(target - 0x2100).toNat]?).getD
            (((descriptor firstLink 0 0)[(target - 0x2000).toNat]?).getD 0)) := by
  have fits (link hpos vpos : UInt16) : (descriptor link hpos vpos).length ≤ UInt16.size :=
    show 27 ≤ UInt16.size by decide
  unfold memory
  rw [Memory.get_load _ _ _ _ (by decide), Memory.get_load _ _ _ _ (fits _ _ _),
    Memory.get_load _ _ _ _ (fits _ _ _), Memory.get_filled]

theorem slice_forward : forward.slice 0x3000 7 = Sprite.sampleBytes := by
  unfold forward memory
  exact Sprite.slice_load_sample _

/-- What a descriptor reads, its link apart. -/
def Reads (head hpos vpos : UInt16) : Prop :=
  let sprite := Sprite.Descriptor.ofMemory forward head
  sprite.control = control ∧ sprite.data = 0x3000
    ∧ registers.latches.reloaded control forward head
      = { Sprite.Latches.initial with hpos := hpos, vpos := vpos }

theorem reads_first : Reads 0x2000 0 0 := by
  simp only [Reads, forward, Sprite.Descriptor.ofMemory, Sprite.Descriptor.control,
    Sprite.Latches.reloaded, Memory.word, Memory.slice, get_memory]
  decide

theorem reads_second : Reads 0x2100 80 40 := by
  simp only [Reads, forward, Sprite.Descriptor.ofMemory, Sprite.Descriptor.control,
    Sprite.Latches.reloaded, Memory.word, Memory.slice, get_memory]
  decide

def positions (hpos vpos : UInt16) : List (Int × Int) :=
  ((Sprite.Job.mk (scene registers control) control false).performAll
    [(.downRight, ⟨[[0x12, 0x34]], .quadrant⟩), (.upRight, ⟨[[0x10]], .sprite⟩)]
    (Sprite.Drawing.start 0x3000 { Sprite.Latches.initial with hpos := hpos, vpos := vpos }
      ⟨Metered.fresh (Memory.filled 0), Collisions.empty⟩)).placements.map
        Sprite.Placement.position

section Either

variable {head other hpos vpos : UInt16} (reads : Reads head hpos vpos)

include reads

theorem consumes {address : UInt16} (consumed : Consumes forward head address) :
    ∃ offset < 7, address = 0x3000 + UInt16.ofNat offset := by
  obtain ⟨found, data, _⟩ := reads
  have start : control.startQuadrant = .downRight := by decide
  unfold Consumes at consumed
  dsimp only at consumed
  rw [found, data, start, Sprite.readSprite_sample slice_forward] at consumed
  exact consumed

theorem independent
    (descriptor : ∀ offset < 27, OutOfReach registers head (head + UInt16.ofNat offset)
      ∧ OutOfReach registers other (head + UInt16.ofNat offset))
    (data : ∀ offset < 7, OutOfReach registers head (0x3000 + UInt16.ofNat offset)
      ∧ OutOfReach registers other (0x3000 + UInt16.ofNat offset))
    (depository : Screen.inFrame 0xC000 (head + 0x0200) = false) :
    Independent registers forward head other := by
  have found := reads.1
  refine ⟨?_, ?_, ?_, ?_, ?_, depository⟩
  · rw [found]
    decide
  · rw [found]
    decide
  · rw [found]
    decide
  · rw [found]
    exact descriptor
  · intro address consumed
    obtain ⟨offset, inside, rfl⟩ := consumes reads consumed
    exact data offset inside

theorem sameSprite
    (bytes : ∀ offset < 27, offset ≠ 3 → offset ≠ 4 →
      backward.get (head + UInt16.ofNat offset) = forward.get (head + UInt16.ofNat offset)) :
    SameSprite forward backward head := by
  refine ⟨?_, ?_, ?_⟩
  · intro offset _ inside
    exact bytes offset (by omega) (by omega) (by omega)
  · rw [reads.1]
    intro offset behind inside
    exact bytes offset inside (by omega) (by omega)
  · intro address consumed
    obtain ⟨offset, inside, rfl⟩ := consumes reads consumed
    clear consumed
    revert offset inside
    simp only [forward, backward, get_memory]
    decide

/-- The sprite visits the positions of the sample, moved to its place. -/
theorem visited_eq (independent : Independent registers forward head other)
    (shown : (scene registers control).shows hpos vpos = true) :
    visited registers forward head = positions hpos vpos := by
  obtain ⟨found, data, latches⟩ := reads
  have start : control.startQuadrant = .downRight := by decide
  have script := Sprite.readSprite_sample slice_forward .downRight
  have apart := Sprite.sample_apart slice_forward .downRight
  have job : Sprite.Job.ofSprite (scene registers control)
      (Sprite.Descriptor.ofMemory forward head)
      { Sprite.Latches.initial with hpos := hpos, vpos := vpos }
        = ⟨scene registers control, control, false⟩ := by
    unfold Sprite.Job.ofSprite
    dsimp only
    rw [found, shown]
    rfl
  unfold visited placements
  rw [(Walk.Shows.refl registers forward head).drawing_eq independent, found, latches,
    Sprite.draw_eq_performAll _ (by rw [found, start, data]; exact apart), found, data, start, job,
    show Sprite.readSprite (Canvas.memory _).memory 0x3000 .downRight = _ from script,
    Sprite.Job.placements_performAll _ _ _ _ _ ⟨Metered.fresh (Memory.filled 0), Collisions.empty⟩]
  rfl

end Either

theorem first_independent : Independent registers forward 0x2000 0x2100 := by
  apply independent reads_first
  · unfold OutOfReach
    decide
  · unfold OutOfReach
    decide
  · decide

theorem second_independent : Independent registers forward 0x2100 0x2000 := by
  apply independent reads_second
  · unfold OutOfReach
    decide
  · unfold OutOfReach
    decide
  · decide

theorem same_first : SameSprite forward backward 0x2000 := by
  apply sameSprite reads_first
  simp only [forward, backward, get_memory]
  decide

theorem same_second : SameSprite forward backward 0x2100 := by
  apply sameSprite reads_second
  simp only [forward, backward, get_memory]
  decide

theorem linked : LinkedPair forward 0x2000 0x2100 := by
  refine ⟨by decide, ?_, ?_⟩
  · simp only [forward, Sprite.Descriptor.ofMemory, Memory.word, get_memory]
    decide
  · simp only [forward, Sprite.Descriptor.ofMemory, Memory.word, get_memory]
    decide

theorem relinked : LinkedPair backward 0x2100 0x2000 := by
  refine ⟨by decide, ?_, ?_⟩
  · simp only [backward, Sprite.Descriptor.ofMemory, Memory.word, get_memory]
    decide
  · simp only [backward, Sprite.Descriptor.ofMemory, Memory.word, get_memory]
    decide

theorem apart : List.Disjoint (visited registers forward 0x2000)
    (visited registers forward 0x2100) := by
  rw [visited_eq reads_first first_independent (by decide),
    visited_eq reads_second second_independent (by decide)]
  have spared : ∀ position ∈ positions 0 0, position ∉ positions 80 40 := by decide +kernel
  exact fun position first second => spared position first second

/-- The links are not in the frame buffer. -/
theorem frame (target : UInt16) (inside : Screen.inFrame 0xC000 target = true) :
    backward.get target = forward.get target := by
  have near : (target - 0xC000).toNat < 8160 := of_decide_eq_true inside
  have places : (0xC000 : UInt16).toNat = 0xC000 ∧ (0x2100 : UInt16).toNat = 0x2100
      ∧ (0x2000 : UInt16).toNat = 0x2000 := by decide
  have small := target.toNat_lt
  rw [UInt16.toNat_sub, places.1] at near
  have past (link hpos vpos : UInt16) {index : Nat} (behind : 27 ≤ index) :
      (descriptor link hpos vpos)[index]? = none :=
    List.getElem?_eq_none behind
  have pastFirst : 27 ≤ (target - 0x2000).toNat := by
    rw [UInt16.toNat_sub, places.2.2]
    omega
  have pastSecond : 27 ≤ (target - 0x2100).toNat := by
    rw [UInt16.toNat_sub, places.2.1]
    omega
  rw [forward, backward, get_memory, get_memory, past _ _ _ pastFirst, past _ _ _ pastFirst,
    past _ _ _ pastSecond, past _ _ _ pastSecond]

end TwoSprites

/-- The first sprite is drawn before the second and after it. -/
theorem two_sprites_commute :
    let ahead := ((TwoSprites.console.withMemory TwoSprites.forward).pointedAt 0x2000).write
      Console.startAddress 0x05
    let back := ((TwoSprites.console.withMemory TwoSprites.backward).pointedAt 0x2100).write
      Console.startAddress 0x05
    (∀ target, Screen.inFrame 0xC000 target = true →
      ahead.board.memory.get target = back.board.memory.get target)
      ∧ ahead.board.chip.registers.collisions = back.board.chip.registers.collisions := by
  have unstopped : TwoSprites.console.board.chip.registers.stopRequested = false := rfl
  have limited : 2 ≤ TwoSprites.console.board.chip.config.budget := by decide
  have both := @independent_sprites_commute TwoSprites.console TwoSprites.forward
    TwoSprites.backward 0x2000 0x2100 0x05 unstopped limited
    TwoSprites.first_independent TwoSprites.second_independent TwoSprites.same_first
    TwoSprites.same_second TwoSprites.frame TwoSprites.linked TwoSprites.relinked TwoSprites.apart
  exact both

end LynxSuzy
