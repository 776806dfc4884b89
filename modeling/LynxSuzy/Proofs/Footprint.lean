import LynxSuzy.Proofs.Bounds

/-!
Contract: which bytes of memory an access over the bus can change.

Owns: the bytes that drawing a sprite, leaving its results and a whole run can
change, and the accesses that change none. A run can reach the frame buffer and
the depositories of the sprites that it drew, wherever sprites have written
descriptors, links or data in the meantime.

Does **not** own: what is written there.
-/

set_option autoImplicit false

namespace LynxSuzy

namespace Sprite

theorem Painted.plotAll_agreeOutside (brush : Brush) (canvas : Canvas)
    (placements : List Placement) :
    Memory.AgreeOutside brush.videoBase (plotAll brush canvas placements).memory.memory
      canvas.memory.memory := by
  have frame := (addAll_spec brush placements ⟨canvas, 0, 0⟩).2.2
  rwa [canvas_addAll] at frame

/-- **Drawing a sprite changes memory in the frame buffer alone.** -/
theorem draw_agreeOutside (scene : Scene) (descriptor : Descriptor) (latches : Latches)
    (canvas : Canvas) :
    Memory.AgreeOutside scene.videoBase
      (draw scene descriptor latches canvas).canvas.memory.memory canvas.memory.memory := by
  obtain ⟨count, painted⟩ := canvas_draw scene descriptor latches canvas
  rw [painted]
  exact Painted.plotAll_agreeOutside (Job.ofSprite scene descriptor latches).brush canvas _

end Sprite

namespace Chain

/-- An address that a visit leaves results at: the depository of a sprite that is
drawn, if the sprite can collide or the run keeps track of what was on screen. -/
structure Visit.Deposits (registers : Registers) (visit : Visit) (address : UInt16) : Prop where
  drawn : visit.descriptor.control.skip = false
  reports : Chain.collidable registers visit.descriptor.control = true ∨ registers.everOn = true
  place : address = visit.descriptor.address + registers.collisionOffset

/-- Leaving results changes the depository at most, and only if there are any. -/
theorem get_deposit {registers : Registers} {descriptor : Sprite.Descriptor}
    {drawing : Sprite.Drawing} {target : UInt16}
    (changed : (deposit registers descriptor drawing).memory.get target
      ≠ drawing.canvas.memory.memory.get target) :
    (collidable registers descriptor.control = true ∨ registers.everOn = true)
      ∧ target = descriptor.address + registers.collisionOffset := by
  by_contra spared
  apply changed
  unfold deposit
  extract_lets depository memory
  have slot : memory.memory.get target = drawing.canvas.memory.memory.get target := by
    simp only [memory]
    split
    · rename_i collides
      apply Memory.get_set_ne
      exact fun same => spared ⟨Or.inl collides, same⟩
    · rfl
  split
  · rename_i tracked
    rw [← slot]
    apply Memory.get_set_ne
    exact fun same => spared ⟨Or.inr tracked, same⟩
  · exact slot

/-- **One visit** can reach the frame buffer and its own depository. -/
theorem get_visit (walk : Walk) (address : UInt16) :
    ∃ visit, (walk.visit address).reversedVisits = visit :: walk.reversedVisits
      ∧ ∀ target,
        (walk.visit address).memory.memory.get target ≠ walk.memory.memory.get target →
        Screen.inFrame walk.registers.videoBase target = true
          ∨ visit.Deposits walk.registers target := by
  have read : (walk.fetched address).memory.memory = walk.memory.memory := by
    have costs : (walk.fetched address).memory = walk.memory.charged _ := Sprite.memory_fetch rfl
    rw [costs]
    rfl
  cases skips : (walk.fetched address).descriptor.control.skip with
  | true =>
      rw [visit_of_skip skips]
      refine ⟨_, rfl, ?_⟩
      intro target changed
      exact absurd (congrArg (Memory.get · target) read) changed
  | false =>
      rw [visit_of_draw skips]
      refine ⟨_, rfl, ?_⟩
      intro target changed
      by_cases inside : Screen.inFrame walk.registers.videoBase target = true
      · exact Or.inl inside
      · right
        have painted : (walk.drawing address).canvas.memory.memory.get target
            = walk.memory.memory.get target := by
          rw [← read]
          exact Sprite.draw_agreeOutside _ _ _ _ target (Bool.eq_false_iff.2 inside)
        rw [← painted] at changed
        obtain ⟨reports, place⟩ := get_deposit changed
        exact ⟨skips, reports, place⟩

/-- The moving registers do not say where results are left. -/
theorem Visit.Deposits.of_movedTo {registers later : Registers} {visit : Visit} {target : UInt16}
    (deposits : visit.Deposits (registers.movedTo later) target) :
    visit.Deposits registers target :=
  ⟨deposits.drawn, deposits.reports, deposits.place⟩

end Chain

/-- **What a run can change in memory**: the frame buffer and the depositories
of the sprites that it drew. -/
theorem Run.get_memory (budget : Nat) (registers : Registers) (memory : Memory) :
    let run := Run.ofRegisters budget registers memory
    ∀ target, run.memory.memory.get target ≠ memory.get target →
      Screen.inFrame registers.videoBase target = true
        ∨ ∃ visit ∈ run.visits, visit.Deposits registers target := by
  -- What an earlier visit has written may be gone again, so the invariant only
  -- speaks of bytes that differ from the first memory.
  have reached := (Chain.run_spec
    (fun walk => walk.registers = registers.movedTo walk.registers
      ∧ ∀ target, walk.memory.memory.get target ≠ memory.get target →
        Screen.inFrame registers.videoBase target = true
          ∨ ∃ visit ∈ walk.visits, visit.Deposits registers target)
    (fun _ => True)
    (fun walk ⟨moved, before⟩ => by
      refine ⟨?_, before⟩
      show { walk.registers with stopRequested := false } = _
      rw [moved]
      rfl)
    (fun walk address ⟨moved, before⟩ => by
      have further := Chain.registers_visit walk address
      obtain ⟨visit, visited, wrote⟩ := Chain.get_visit walk address
      rw [moved] at further wrote
      refine ⟨⟨further, ?_⟩, visit, visited, trivial⟩
      have all : (walk.visit address).visits = walk.visits ++ [visit] := by
        simp only [Chain.Walk.visits, visited, List.reverse_cons]
      intro target changed
      rw [all]
      by_cases now : (walk.visit address).memory.memory.get target = walk.memory.memory.get target
      · rw [now] at changed
        rcases before target changed with inside | ⟨earlier, among, deposits⟩
        · exact Or.inl inside
        · exact Or.inr ⟨earlier, List.mem_append_left _ among, deposits⟩
      · rcases wrote target now with inside | deposits
        · exact Or.inl inside
        · exact Or.inr ⟨visit, List.mem_append_right _ (List.mem_singleton_self visit),
            deposits.of_movedTo⟩)
    budget ⟨registers, Metered.fresh memory, []⟩
    ⟨rfl, fun _ changed => absurd rfl changed⟩).1
  exact reached.2

/-! ## Accesses over the bus -/

namespace Board

variable {socket : Type} [CartridgeSocket socket]

theorem memory_readRegister (board : Board socket) (offset : UInt8) :
    (board.readRegister offset).2.memory = board.memory := by
  unfold readRegister
  extract_lets registers
  cases Register.ofOffset offset <;> rfl

/-- A write to a register leaves memory alone unless it starts the engine. -/
theorem memory_writeRegister (board : Board socket) (offset value : UInt8)
    (idle : Register.ofOffset offset = .spriteGo → Byte.flagged value 0x01 = true →
      board.chip.registers.busEnabled = false) :
    (board.writeRegister offset value).memory = board.memory := by
  unfold writeRegister
  extract_lets registers
  cases named : Register.ofOffset offset with
  | spriteGo =>
      simp only [writeGo]
      split
      · rename_i starts
        have disabled := idle named starts
        simp only [start, withRegisters, disabled, Bool.false_eq_true, if_false]
        rfl
      · rfl
  | _ => rfl

end Board

/-- The engine is started through one register alone. -/
theorem Register.ofOffset_eq_spriteGo {offset : UInt8}
    (named : Register.ofOffset offset = .spriteGo) : offset = 0x91 := by
  have plain : Register.plainOfOffset offset = .spriteGo := by
    unfold ofOffset at named
    split at named
    · cases named
    · split at named
      · split at named <;> cases named
      · exact named
  unfold plainOfOffset at plain
  split at plain <;> cases plain
  rename_i place
  exact UInt8.toNat_inj.1 place

namespace Console

/-- A write to the start register that lets the engine run. -/
structure Starts (console : Console) (address : UInt16) (value : UInt8) : Prop where
  register : address = startAddress
  requested : Byte.flagged value 0x01 = true
  enabled : console.board.chip.registers.busEnabled = true

theorem memory_read (console : Console) (address : UInt16) :
    (console.read address).2.board.memory = console.board.memory := by
  obtain ⟨board, palette⟩ := console
  simp only [read]
  split
  · exact board.memory_readRegister _
  · rfl

/-- A register of the chip has one address. -/
theorem address_eq_of_offset {address target : UInt16} (onPage : reachesChip address = true)
    (targetOnPage : reachesChip target = true)
    (offset : Word.byte address .low = Word.byte target .low) : address = target := by
  simp only [reachesChip, beq_iff_eq] at onPage targetOnPage
  have low := congrArg UInt8.toNat offset
  have high := congrArg UInt8.toNat (onPage.trans targetOnPage.symm)
  have shift : (8 : UInt16).toNat % 16 = 8 := by decide
  simp only [Word.byte, UInt16.toNat_toUInt8, UInt16.toNat_shiftRight, shift,
    Nat.shiftRight_eq_div_pow] at low high
  have small := address.toNat_lt
  have targetSmall := target.toNat_lt
  apply UInt16.toNat_inj.1
  omega

theorem address_of_spriteGo {address : UInt16} (onPage : reachesChip address = true)
    (named : Register.ofOffset (Word.byte address .low) = .spriteGo) : address = startAddress :=
  address_eq_of_offset onPage (by decide) (Register.ofOffset_eq_spriteGo named)

theorem memory_write_of_not_starts {console : Console} {address : UInt16} {value : UInt8}
    (onPage : reachesChip address = true) (still : ¬ console.Starts address value) :
    (console.write address value).board.memory = console.board.memory := by
  obtain ⟨board, palette⟩ := console
  simp only [write, onPage, if_true]
  apply Board.memory_writeRegister
  intro named requested
  by_contra enabled
  rw [Bool.not_eq_false] at enabled
  exact still ⟨address_of_spriteGo onPage named, requested, enabled⟩

theorem memory_write_of_offPage {console : Console} {address : UInt16} (value : UInt8)
    (offPage : reachesChip address = false) :
    (console.write address value).board.memory = console.board.memory.set address value := by
  obtain ⟨⟨chip, memory, socket, charges, notices⟩, palette⟩ := console
  simp only [write, offPage, Bool.false_eq_true, if_false]

end Console

/-- **What accesses over the bus can change in memory.** A start changes bytes of
the frame buffer and of the depositories of the sprites that its run drew and
that had something to report; no other access to the chip changes memory, a
start with the bus disabled neither; and a write elsewhere changes at most the
byte that it addresses. -/
theorem bus_footprint (console : Console) :
    (∀ address value, console.Starts address value →
      let registers := console.board.chip.registers.started value
      let run := Run.ofRegisters console.board.chip.config.budget registers console.board.memory
      let after := (console.write address value).board
      after.chip.lastRun = some run.account ∧ after.memory = run.memory.memory
        ∧ ∀ target, after.memory.get target ≠ console.board.memory.get target →
          Screen.inFrame registers.videoBase target = true
            ∨ ∃ visit ∈ run.visits, visit.Deposits registers target)
      ∧ (∀ address value, Console.reachesChip address = true → ¬ console.Starts address value →
        (console.write address value).board.memory = console.board.memory)
      ∧ (∀ address, (console.read address).2.board.memory = console.board.memory)
      ∧ ∀ address value, Console.reachesChip address = false →
        ∀ target, target ≠ address →
          (console.write address value).board.memory.get target
            = console.board.memory.get target := by
  refine ⟨?_, ?_, console.memory_read, ?_⟩
  · rintro address value ⟨rfl, requested, enabled⟩ registers run after
    have ran : after = (console.board.withRegisters registers).runSprites :=
      board_write_start enabled requested
    have memory : after.memory = run.memory.memory := by
      rw [ran]
      rfl
    refine ⟨?_, memory, ?_⟩
    · rw [ran]
      rfl
    · rw [memory]
      exact Run.get_memory _ registers console.board.memory
  · intro address value onPage still
    exact Console.memory_write_of_not_starts onPage still
  · intro address value offPage target apart
    rw [Console.memory_write_of_offPage value offPage]
    exact Memory.get_set_ne _ value apart

/-- A start reaches what it may, the register beside it and a plain write do
not. -/
theorem closedChain_footprint :
    let registers := Console.closedChain.board.chip.registers.started 0x05
    let run := Run.ofRegisters 21870 registers (Memory.filled 0x20)
    let after := (Console.closedChain.write Console.startAddress 0x05).board
    Console.closedChain.Starts Console.startAddress 0x05
      ∧ after.chip.lastRun = some run.account
      ∧ (∀ target, after.memory.get target ≠ 0x20 → Screen.inFrame 0 target = true
        ∨ ∃ visit ∈ run.visits, visit.Deposits registers target)
      ∧ (Console.closedChain.write 0xFC92 0x05).board.memory = Memory.filled 0x20
      ∧ (Console.closedChain.write 0x4000 0x05).board.memory.get 0x4001 = 0x20 := by
  intro registers run after
  obtain ⟨ran, still, _, plain⟩ := bus_footprint Console.closedChain
  have starts : Console.closedChain.Starts Console.startAddress 0x05 :=
    ⟨rfl, by decide, rfl⟩
  have filled (target : UInt16) : Console.closedChain.board.memory.get target = 0x20 :=
    Memory.get_filled 0x20 target
  obtain ⟨account, _, footprint⟩ := ran Console.startAddress 0x05 starts
  refine ⟨starts, account, ?_, ?_, ?_⟩
  · intro target changed
    rw [← filled target] at changed
    exact footprint target changed
  · apply still 0xFC92 0x05 (by decide)
    rintro ⟨register, _, _⟩
    exact absurd register (by decide)
  · rw [plain 0x4000 0x05 (by decide) 0x4001 (by decide)]
    exact filled 0x4001

end LynxSuzy
