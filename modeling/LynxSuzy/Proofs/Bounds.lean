import LynxSuzy.Proofs.Costs
import LynxSuzy.Proofs.Ranges
import Mathlib.Algebra.Order.BigOperators.Group.List
import Mathlib.Algebra.Order.Ring.Nat
import Mathlib.Algebra.Group.Action.Defs

/-!
Contract: how much a run can do.

Owns: the greatest number of accesses and pixels of a pass, of a sprite and of a
visit, and what follows for a run under a limit: it ends, its counters hold what
it did, and nothing that it adds up leaves its range. All of it holds for any
memory, with sprites that paint over their own data, descriptors or links.

Does **not** own: what exactly a visit costs (`Proofs.Costs`).
-/

set_option autoImplicit false

namespace LynxSuzy

theorem sum_map_le {Item : Type} {items : List Item} {count : Item → Nat} {most : Nat}
    (each : ∀ item ∈ items, count item ≤ most) :
    (items.map count).sum ≤ items.length * most := by
  have bounded : ∀ number ∈ items.map count, number ≤ most := by
    intro number member
    obtain ⟨item, among, rfl⟩ := List.mem_map.1 member
    exact each item among
  have sums := List.sum_le_card_nsmul _ _ bounded
  rwa [List.length_map, smul_eq_mul] at sums

namespace Sprite

theorem Control.descriptorBytes_le (control : Control) : control.descriptorBytes ≤ 27 := by
  unfold descriptorBytes
  split
  · decide
  · have size : (if control.reload.hasSize then 4 else 0) ≤ 4 := by split <;> decide
    have stretch : (if control.reload.hasStretch then 2 else 0) ≤ 2 := by split <;> decide
    have tilt : (if control.reload.hasTilt then 2 else 0) ≤ 2 := by split <;> decide
    have palette : (if control.reloadPalette then 8 else 0) ≤ 8 := by split <;> decide
    omega

/-- What a pass can come to: it reads no more than its entry of the script, and
paints no more than the screen. -/
structure Pass.Bounded (pass : Pass) (entry : Quadrant × Reading) : Prop where
  data : pass.summary.dataAccesses ≤ entry.2.bytes
  painted : pass.summary.drawn + pass.summary.blocked ≤ Screen.width * Screen.height

theorem Job.bounded_perform (job : Job) (drawing : Drawing) (entry : Quadrant × Reading) :
    ∃ pass, (job.perform drawing entry).reversedPasses = pass :: drawing.reversedPasses
      ∧ pass.Bounded entry := by
  obtain ⟨quadrant, reading⟩ := entry
  cases draws : job.draws quadrant drawing.latches with
  | true =>
      rw [perform_of_draws reading draws]
      refine ⟨_, rfl, Nat.le_of_eq reading.bytes_eq.symm, ?_⟩
      have most : (((job.course quadrant).passTrace reading.lines drawing.latches).rows.flatMap
          Row.placements).length ≤ Screen.width * Screen.height :=
        (job.course quadrant).length_placements_trace_le _ _ _
      exact Nat.le_trans (Painted.counted_addRows job.brush drawing.canvas _) most
  | false =>
      rw [perform_of_skips reading draws]
      refine ⟨_, rfl, ?_, Nat.zero_le _⟩
      rw [reading.bytes_eq]
      exact Nat.le_add_right _ _

structure Summary.Bounded (summary : Summary) : Prop where
  data : summary.dataAccesses ≤ 65790
  frame : summary.frameAccesses ≤ 2 * 4 * 160 * 102
  pixels : summary.totalPixels ≤ 65280

theorem sum_passes_le {passes : List Pass} {count : PassSummary → Nat} (most : Nat)
    (each : ∀ pass ∈ passes, count pass.summary ≤ most) (few : passes.length ≤ 4) :
    ((passes.map Pass.summary).map count).sum ≤ 4 * most := by
  rw [List.map_map]
  exact Nat.le_trans (sum_map_le each) (Nat.mul_le_mul_right most few)

theorem bounded_of_script {passes : List Pass} {script : List (Quadrant × Reading)}
    (bounded : List.Forall₂ Pass.Bounded passes script) (few : script.length ≤ 4)
    (data : scriptBytes script ≤ 65790) {summary : Summary}
    (reported : summary.passes = passes.map Pass.summary) : summary.Bounded := by
  have count : passes.length ≤ 4 := bounded.length_eq.trans_le few
  have painted : ∀ pass ∈ passes,
      pass.summary.drawn + pass.summary.blocked ≤ Screen.width * Screen.height := by
    intro pass member
    obtain ⟨_, _, bound⟩ := exists_entry bounded member
    exact bound.painted
  simp only [Screen.width, Screen.height] at painted
  constructor
  · have sums : (passes.map fun pass => pass.summary.dataAccesses).sum ≤ scriptBytes script := by
      apply List.Forall₂.sum_le_sum
      rw [List.forall₂_map_left_iff, List.forall₂_map_right_iff]
      exact bounded.imp fun _ _ bound => bound.data
    rw [Summary.dataAccesses, reported, List.map_map]
    exact Nat.le_trans sums data
  · rw [Summary.frameAccesses, reported]
    refine Nat.le_trans (sum_passes_le (2 * 160 * 102) ?_ count) (by decide)
    intro pass member
    have bound := painted pass member
    unfold PassSummary.frameAccesses
    omega
  · rw [Summary.totalPixels, reported]
    refine Nat.le_trans (sum_passes_le (160 * 102) ?_ count) (by decide)
    intro pass member
    have bound := painted pass member
    omega

/-- **What any sprite can come to**, in any memory. -/
theorem bounded_draw (scene : Scene) (descriptor : Descriptor) (latches : Latches)
    (canvas : Canvas) : (draw scene descriptor latches canvas).summary.Bounded := by
  obtain ⟨script, valid, drawn, _, bounded⟩ := draw_spec scene descriptor latches canvas
    (fun _ => True) Pass.Bounded
    (fun drawing entry _ _ => ⟨trivial, Job.bounded_perform _ drawing entry⟩) trivial
  have data := valid.bytes_le (Nat.zero_le _)
  rw [drawn]
  apply bounded_of_script bounded valid.length_le
  · simpa [Cursor.limit, Cursor.start] using data
  · rfl

end Sprite

namespace Chain

/-- The drawing that a visit reports, when the registers of its run are given. -/
def Visit.Draws (registers : Registers) (visit : Visit) (drawing : Sprite.Drawing) : Prop :=
  visit.summary = some drawing.summary
    ∧ ∃ canvas, drawing = Sprite.draw (scene registers visit.descriptor.control)
        visit.descriptor visit.latches canvas

structure Visit.Bounded (registers : Registers) (visit : Visit) : Prop where
  descriptor : visit.descriptor.control.descriptorBytes ≤ 27
  data : visit.dataAccesses ≤ 65790
  frame : visit.frameAccesses ≤ 2 * 4 * 160 * 102
  depository : visit.depositoryAccesses registers.everOn ≤ 3
  accesses : visit.accesses registers.everOn ≤ 196380
  pixels : visit.pixels ≤ 65280
  /-- Unless it is skipped, what drawing the sprite adds up is in range. -/
  inRange : visit.summary = none ∨ ∃ drawing, visit.Draws registers drawing
    ∧ (scene registers visit.descriptor.control).InRange
    ∧ drawing.InRange
        (.ofSprite (scene registers visit.descriptor.control) visit.descriptor visit.latches)

/-- The chip gives the corner of the screen as signed words. -/
theorem inWorld_scene (registers : Registers) (control : Sprite.Control) :
    (scene registers control).InWorld where
  left := ⟨Word.signed_lower _, Word.signed_upper _⟩
  top := ⟨Word.signed_lower _, Word.signed_upper _⟩

theorem depositoryAccesses_le (everOn : Bool) (visit : Visit) :
    visit.depositoryAccesses everOn ≤ 3 := by
  unfold Visit.depositoryAccesses
  split
  · have slot : (if visit.collidable then 1 else 0) ≤ 1 := by split <;> decide
    have note : (if everOn then 2 else 0) ≤ 2 := by split <;> decide
    omega
  · decide

theorem bounded_of_skip {registers : Registers} {visit : Visit} (skips : visit.summary = none) :
    visit.Bounded registers := by
  have descriptor := visit.descriptor.control.descriptorBytes_le
  have depository := depositoryAccesses_le registers.everOn visit
  have data : visit.dataAccesses = 0 := by rw [Visit.dataAccesses, skips]; rfl
  have frame : visit.frameAccesses = 0 := by rw [Visit.frameAccesses, skips]; rfl
  have pixels : visit.pixels = 0 := by rw [Visit.pixels, skips]
  refine ⟨descriptor, by omega, by omega, depository, ?_, by omega, Or.inl skips⟩
  unfold Visit.accesses
  omega

theorem bounded_of_draws {registers : Registers} {visit : Visit} {drawing : Sprite.Drawing}
    (draws : visit.Draws registers drawing) : visit.Bounded registers := by
  obtain ⟨reported, canvas, rfl⟩ := draws
  have descriptor := visit.descriptor.control.descriptorBytes_le
  have depository := depositoryAccesses_le registers.everOn visit
  have bounded := Sprite.bounded_draw (scene registers visit.descriptor.control) visit.descriptor
    visit.latches canvas
  have data : visit.dataAccesses ≤ 65790 := by
    rw [Visit.dataAccesses, reported]
    exact bounded.data
  have frame : visit.frameAccesses ≤ 2 * 4 * 160 * 102 := by
    rw [Visit.frameAccesses, reported]
    exact bounded.frame
  have pixels : visit.pixels ≤ 65280 := by
    rw [Visit.pixels, reported]
    exact bounded.pixels
  have inWorld := inWorld_scene registers visit.descriptor.control
  refine ⟨descriptor, data, frame, depository, ?_, pixels, Or.inr ⟨_, ⟨reported, canvas, rfl⟩,
    inWorld.inRange, Sprite.inRange_draw inWorld visit.descriptor visit.latches canvas⟩⟩
  unfold Visit.accesses
  omega

theorem bounded_visit {registers : Registers} {walk : Walk} (address : UInt16)
    (same : ∀ control, scene walk.registers control = scene registers control) :
    ∃ visit, (walk.visit address).reversedVisits = visit :: walk.reversedVisits
      ∧ visit.Bounded registers := by
  cases skips : (walk.fetched address).descriptor.control.skip with
  | true =>
      rw [visit_of_skip skips]
      exact ⟨_, rfl, bounded_of_skip rfl⟩
  | false =>
      rw [visit_of_draw skips]
      have scenery := same (walk.fetched address).descriptor.control
      refine ⟨_, rfl, @bounded_of_draws _ _ (walk.drawing address) ⟨rfl, ?_⟩⟩
      rw [← scenery]
      exact ⟨_, rfl⟩

end Chain

/-! ## Runs -/

theorem Run.bounded_visits (budget : Nat) (registers : Registers) (memory : Memory) :
    (Run.ofRegisters budget registers memory).visits.length ≤ budget
      ∧ ∀ visit ∈ (Run.ofRegisters budget registers memory).visits, visit.Bounded registers := by
  obtain ⟨_, visits, all, few, bounded⟩ := Chain.run_spec
    (fun walk => ∀ control, Chain.scene walk.registers control = Chain.scene registers control)
    (Chain.Visit.Bounded registers)
    (fun _ same => same)
    (fun walk address same =>
      ⟨fun control => (Chain.scene_visit walk address control).trans (same control),
        Chain.bounded_visit address same⟩)
    budget ⟨registers, Metered.fresh memory, []⟩ (fun _ => rfl)
  have visited : (Run.ofRegisters budget registers memory).visits = visits := all
  rw [visited]
  exact ⟨few, bounded⟩

/-- The counters of a run hold what it did. -/
structure Run.Counted (run : Run) : Prop where
  sprites : run.account.sprites < UInt32.size
  pixels : run.account.pixels < UInt32.size
  accesses : run.account.accesses < UInt32.size
  /-- The counter of accesses has not come to its end. -/
  exact : run.account.accesses = run.memory.accesses

theorem Run.counted_of_limit {budget : Nat} (small : budget ≤ 21870) (registers : Registers)
    (memory : Memory) : (Run.ofRegisters budget registers memory).Counted := by
  obtain ⟨few, bounded⟩ := Run.bounded_visits budget registers memory
  have spent := Run.accesses_eq budget registers memory
  dsimp only at spent
  have accesses := sum_map_le fun visit member => (bounded visit member).accesses
  have pixels := sum_map_le fun visit member => (bounded visit member).pixels
  -- 21870 visits of 196380 accesses are just below the size of the counter.
  have size : UInt32.size = 4294967296 := rfl
  have total : (Run.ofRegisters budget registers memory).memory.accesses < UInt32.size := by omega
  have kept : (Run.ofRegisters budget registers memory).account.accesses
      = (Run.ofRegisters budget registers memory).memory.accesses :=
    Nat.min_eq_left (Nat.le_sub_one_of_lt total)
  refine ⟨?_, ?_, by rwa [kept], kept⟩
  · change (Run.ofRegisters budget registers memory).visits.length < _
    omega
  · change ((Run.ofRegisters budget registers memory).visits.map Chain.Visit.pixels).sum < _
    omega

/-- **A start under a limit ends within it.** Whatever is in memory and in the
registers, the run visits no more descriptors than the limit, and each visit
keeps to its bounds: 27 bytes of a descriptor, 65790 bytes of data, two accesses
for each position of the screen in each of four passes, three to the depository,
and so 196380 in all, with 65280 pixels. Nothing that a visit adds up on the way
leaves the range of its machine word.

Up to 21870 visits the counters of the run hold what it did. -/
theorem start_within_limit {console : Console} {value : UInt8} {limit : Nat}
    (enabled : console.board.chip.registers.busEnabled = true)
    (limited : console.board.chip.config.spriteLimit = some limit)
    (starts : Byte.flagged value 0x01 = true) :
    let registers := console.board.chip.registers.started value
    let run := Run.ofRegisters limit registers console.board.memory
    (console.write Console.startAddress value).board.chip.lastRun = some run.account
      ∧ run.account.sprites ≤ limit
      ∧ (∀ visit ∈ run.visits, visit.Bounded registers)
      ∧ run.memory.accesses = (run.visits.map (Chain.Visit.accesses registers.everOn)).sum
      ∧ (limit ≤ 21870 → run.Counted) := by
  intro registers run
  obtain ⟨few, bounded⟩ := Run.bounded_visits limit registers console.board.memory
  refine ⟨?_, few, bounded, Run.accesses_eq limit registers console.board.memory,
    fun small => Run.counted_of_limit small registers console.board.memory⟩
  have budget : console.board.chip.config.budget = limit := by
    rw [Config.budget, limited, Option.getD_some]
  rw [board_write_start enabled starts]
  simp only [run, registers, ← budget]
  rfl

/-- A console whose every descriptor links back to itself, about to start. -/
def Console.closedChain : Console where
  board :=
    { chip :=
        { registers := { Registers.initial with busEnabled := true, nextDescriptor := 0x2020 }
          config := ⟨some 21870⟩
          lastRun := none }
      memory := Memory.filled 0x20
      socket := none
      charges := []
      reversedNotices := [] }
  palette := Console.greys

/-- A chain that closes on itself is cut short with its counters exact. -/
theorem closedChain_within_limit :
    let run := Run.ofRegisters 21870 (Console.closedChain.board.chip.registers.started 0x01)
      (Memory.filled 0x20)
    (Console.closedChain.write Console.startAddress 0x01).board.chip.lastRun = some run.account
      ∧ run.account.sprites ≤ 21870 ∧ run.Counted := by
  have enabled : Console.closedChain.board.chip.registers.busEnabled = true := rfl
  have limited : Console.closedChain.board.chip.config.spriteLimit = some 21870 := rfl
  have starts : Byte.flagged 0x01 0x01 = true := by decide
  obtain ⟨ran, few, _, _, counted⟩ := start_within_limit enabled limited starts
  exact ⟨ran, few, counted (Nat.le_refl 21870)⟩

end LynxSuzy
