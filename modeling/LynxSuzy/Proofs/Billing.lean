import LynxSuzy.Proofs.Consumption
import LynxSuzy.Proofs.Itinerary

/-!
Contract: the bill for a run, item by item.

Owns: the items that a visit is billed for, what each of them counts, and the
charge that a start makes for a run. Each access of a run goes to one item.

Does **not** own: the accesses of a visit by the part of the work that makes them
(`Proofs.Costs`), or charges that are never collected.
-/

set_option autoImplicit false

namespace LynxSuzy

namespace Sprite

/-! ## Outcomes of pixels -/

namespace Painted

def results (brush : Brush) : Canvas → List Placement → List PlotResult
  | _, [] => []
  | canvas, placement :: rest =>
      let plotted := brush.plot canvas placement.x placement.y placement.pen
      plotted.1 :: results brush plotted.2 rest

theorem results_append (brush : Brush) (second : List Placement) (first : List Placement) :
    ∀ canvas : Canvas, results brush canvas (first ++ second)
      = results brush canvas first ++ results brush (plotAll brush canvas first) second := by
  induction first with
  | nil => exact fun _ => rfl
  | cons placement rest recurse =>
      intro canvas
      simp only [List.cons_append, results, plotAll, List.foldl_cons]
      rw [recurse]
      rfl

/-- The accesses counted before do not change what comes of a pixel. -/
theorem results_charged (brush : Brush) (placements : List Placement) (count : Nat) :
    ∀ canvas : Canvas,
      results brush (canvas.charged count) placements = results brush canvas placements := by
  induction placements with
  | nil => exact fun _ => rfl
  | cons placement rest recurse =>
      intro canvas
      simp only [results, Brush.plot_charged, recurse]

/-- **Painting counts its outcomes.** -/
theorem counts_addAll (brush : Brush) (placements : List Placement) :
    ∀ painted : Painted,
      let outcomes := results brush painted.canvas placements
      let after := painted.addAll brush placements
      after.drawn = painted.drawn + outcomes.count .drawn
        ∧ after.blocked = painted.blocked + outcomes.count .blocked := by
  induction placements with
  | nil => exact fun _ => ⟨rfl, rfl⟩
  | cons placement rest recurse =>
      intro painted
      obtain ⟨drawn, blocked⟩ := recurse (painted.add brush placement)
      rw [canvas_add] at drawn blocked
      simp only [results, addAll, List.foldl_cons, List.count_cons]
      simp only [addAll] at drawn blocked
      rw [drawn, blocked]
      unfold add
      rcases brush.plot painted.canvas placement.x placement.y placement.pen with ⟨outcome, canvas⟩
      cases outcome with
      | clipped => exact ⟨rfl, rfl⟩
      | transparent => exact ⟨rfl, rfl⟩
      | blocked =>
          refine ⟨rfl, ?_⟩
          rw [Nat.add_right_comm, Nat.add_assoc]
          rfl
      | drawn =>
          refine ⟨?_, rfl⟩
          rw [Nat.add_right_comm, Nat.add_assoc]
          rfl

end Painted

/-! ## What the numbers of a sprite count -/

/-- The numbers of a pass that has gone through an entry of a script. Headers are
read on every pass, the bytes behind them only where lines are drawn. -/
structure Pass.Counts (pass : Pass) (entry : Quadrant × Reading) : Prop where
  follows : pass.Follows entry
  data : pass.summary.dataBytes
    = if pass.summary.superclipped then 0 else (pass.lines.map List.length).sum

structure Drawing.Counts (brush : Brush) (canvas : Canvas) (drawing : Drawing) : Prop where
  painted : ∃ count, drawing.canvas
    = (Painted.plotAll brush canvas drawing.placements).charged count
  drawn : (drawing.passes.map fun pass => pass.summary.drawn).sum
    = (Painted.results brush canvas drawing.placements).count .drawn
  blocked : (drawing.passes.map fun pass => pass.summary.blocked).sum
    = (Painted.results brush canvas drawing.placements).count .blocked

theorem Job.counts_perform (job : Job) (drawing : Drawing) (entry : Quadrant × Reading) :
    ∃ pass count, (job.perform drawing entry).reversedPasses = pass :: drawing.reversedPasses
      ∧ pass.Counts entry
      ∧ (job.perform drawing entry).canvas
        = (Painted.plotAll job.brush drawing.canvas pass.placements).charged count
      ∧ pass.summary.drawn
        = (Painted.results job.brush drawing.canvas pass.placements).count .drawn
      ∧ pass.summary.blocked
        = (Painted.results job.brush drawing.canvas pass.placements).count .blocked := by
  obtain ⟨quadrant, reading⟩ := entry
  cases draws : job.draws quadrant drawing.latches with
  | true =>
      rw [perform_of_draws reading draws]
      obtain ⟨drawn, blocked⟩ := Painted.counts_addAll job.brush
        (((job.course quadrant).passTrace reading.lines drawing.latches).rows.flatMap
          Row.placements) ⟨drawing.canvas, 0, 0⟩
      rw [← Painted.addRows_eq, Nat.zero_add] at drawn blocked
      refine ⟨_, reading.bytes, rfl, ⟨⟨rfl, rfl, fun _ => rfl⟩, rfl⟩, ?_, drawn, blocked⟩
      simp only [drawReading, Painted.addRows_eq, Painted.canvas_addAll]
      rfl
  | false =>
      rw [perform_of_skips reading draws]
      refine ⟨_, reading.headers, rfl, ⟨⟨rfl, rfl, ?_⟩, rfl⟩, rfl, rfl, rfl⟩
      intro superclipped
      cases superclipped

/-- **What an entry's pass counts is added to what the sprite counts.** -/
theorem Drawing.Counts.perform {job : Job} {canvas : Canvas} {drawing : Drawing}
    (counts : drawing.Counts job.brush canvas) (entry : Quadrant × Reading) :
    (job.perform drawing entry).Counts job.brush canvas
      ∧ ∃ pass, (job.perform drawing entry).reversedPasses = pass :: drawing.reversedPasses
        ∧ pass.Counts entry := by
  obtain ⟨before, painted⟩ := counts.painted
  obtain ⟨pass, count, passed, counted, further, drawn, blocked⟩ := job.counts_perform drawing entry
  have passes : (job.perform drawing entry).passes = drawing.passes ++ [pass] := by
    simp only [Drawing.passes, passed, List.reverse_cons]
  have placements : (job.perform drawing entry).placements
      = drawing.placements ++ pass.placements := by
    simp only [Drawing.placements, passes, List.flatMap_append, List.flatMap_cons,
      List.flatMap_nil, List.append_nil, Pass.placements]
  rw [painted, Painted.results_charged] at drawn blocked
  refine ⟨⟨⟨before + count, ?_⟩, ?_, ?_⟩, pass, passed, counted⟩
  · rw [further, painted, placements, Painted.plotAll_append, Painted.plotAll_charged]
    simp only [Canvas.charged, Metered.charged, Nat.add_assoc]
  · rw [passes, placements, Painted.results_append, List.count_append, List.map_append,
      List.sum_append, counts.drawn, ← drawn]
    rfl
  · rw [passes, placements, Painted.results_append, List.count_append, List.map_append,
      List.sum_append, counts.blocked, ← blocked]
    rfl

/-- **A sprite's numbers count what it reads and paints**, also where it paints
over its own data. -/
theorem counts_draw (scene : Scene) (descriptor : Descriptor) (latches : Latches)
    (canvas : Canvas) :
    let drawing := draw scene descriptor latches canvas
    drawing.Counts (Job.ofSprite scene descriptor latches).brush canvas
      ∧ ∃ script,
          IsScript 4 descriptor.control.startQuadrant (Cursor.start descriptor.data) script
            ∧ List.Forall₂ Pass.Counts drawing.passes script := by
  obtain ⟨script, valid, drawn, counts, relates⟩ := draw_spec scene descriptor latches canvas
    (Drawing.Counts (Job.ofSprite scene descriptor latches).brush canvas) Pass.Counts
    (fun _ entry _ counts => counts.perform entry)
    ⟨⟨0, rfl⟩, rfl, rfl⟩
  rw [drawn]
  exact ⟨⟨counts.painted, counts.drawn, counts.blocked⟩, script, valid, relates⟩

end Sprite

namespace Chain

/-! ## The bill for a visit -/

namespace Visit

def passes (visit : Visit) : List Sprite.PassSummary :=
  (visit.summary.map Sprite.Summary.passes).getD []

def headers (visit : Visit) : Nat :=
  (visit.passes.map Sprite.PassSummary.headers).sum

def dataBytes (visit : Visit) : Nat :=
  ((visit.passes.filter fun pass => !pass.superclipped).map Sprite.PassSummary.dataBytes).sum

def drawn (visit : Visit) : Nat :=
  (visit.passes.map Sprite.PassSummary.drawn).sum

def blocked (visit : Visit) : Nat :=
  (visit.passes.map Sprite.PassSummary.blocked).sum

def bill (everOn : Bool) (visit : Visit) : Nat :=
  let control := visit.descriptor.control
  if control.skip then 5
  else
    11 + (if control.reload.hasSize then 4 else 0) + (if control.reload.hasStretch then 2 else 0)
      + (if control.reload.hasTilt then 2 else 0) + (if control.reloadPalette then 8 else 0)
      + visit.headers + visit.dataBytes + 2 * visit.drawn + visit.blocked
      + (if visit.collidable then 1 else 0) + (if everOn then 2 else 0)

/-- What the items of a bill count, for a visit that a walk makes next. The sprite
is drawn on memory as the walk has left it, behind the reading of the descriptor. -/
structure Itemised (walk : Walk) (visit : Visit) : Prop where
  fetched :
    Sprite.Descriptor.fetch walk.memory walk.registers.nextDescriptor walk.registers.latches
      = ⟨visit.descriptor, visit.latches,
          walk.memory.charged visit.descriptor.control.descriptorBytes⟩
  collidable : visit.collidable = Chain.collidable walk.registers visit.descriptor.control
  skipped : visit.descriptor.control.skip = true → visit.summary = none
  drawn : visit.descriptor.control.skip = false →
    let control := visit.descriptor.control
    let scenery := scene walk.registers control
    let canvas : Canvas :=
      ⟨walk.memory.charged control.descriptorBytes, walk.registers.collisions⟩
    let drawing := Sprite.draw scenery visit.descriptor visit.latches canvas
    visit.summary = some drawing.summary
      ∧ drawing.Counts (Sprite.Job.ofSprite scenery visit.descriptor visit.latches).brush canvas
      ∧ ∃ script,
          Sprite.IsScript 4 control.startQuadrant (Sprite.Cursor.start visit.descriptor.data) script
            ∧ List.Forall₂ Sprite.Pass.Counts drawing.passes script

end Visit

/-- Passes that were not drawn have read no lines, so they need not be left out. -/
theorem sum_dataBytes_filter {passes : List Sprite.PassSummary}
    (nothing : ∀ pass ∈ passes, pass.superclipped = true → pass.dataBytes = 0) :
    ((passes.filter fun pass => !pass.superclipped).map Sprite.PassSummary.dataBytes).sum
      = (passes.map Sprite.PassSummary.dataBytes).sum := by
  induction passes with
  | nil => rfl
  | cons pass rest recurse =>
      have later := recurse fun other among => nothing other (List.mem_cons_of_mem _ among)
      cases superclipped : pass.superclipped with
      | true =>
          have none := nothing pass List.mem_cons_self superclipped
          rw [List.filter_cons_of_neg (by simp [superclipped]), later, List.map_cons,
            List.sum_cons, none, Nat.zero_add]
      | false =>
          rw [List.filter_cons_of_pos (by simp [superclipped]), List.map_cons, List.sum_cons,
            later, List.map_cons, List.sum_cons]

theorem sum_dataAccesses (passes : List Sprite.PassSummary) :
    (passes.map Sprite.PassSummary.dataAccesses).sum
      = (passes.map Sprite.PassSummary.headers).sum
        + (passes.map Sprite.PassSummary.dataBytes).sum := by
  induction passes with
  | nil => rfl
  | cons pass rest recurse =>
      simp only [List.map_cons, List.sum_cons, recurse, Sprite.PassSummary.dataAccesses]
      omega

theorem sum_frameAccesses (passes : List Sprite.PassSummary) :
    (passes.map Sprite.PassSummary.frameAccesses).sum
      = 2 * (passes.map Sprite.PassSummary.drawn).sum
        + (passes.map Sprite.PassSummary.blocked).sum := by
  induction passes with
  | nil => rfl
  | cons pass rest recurse =>
      simp only [List.map_cons, List.sum_cons, recurse, Sprite.PassSummary.frameAccesses]
      omega

/-- **The items of a visit are its accesses.** -/
theorem Visit.Itemised.bill_eq {walk : Walk} {visit : Visit} (itemised : visit.Itemised walk)
    (everOn : Bool) :
    visit.bill everOn = visit.accesses everOn := by
  cases skips : visit.descriptor.control.skip with
  | true =>
      have none := itemised.skipped skips
      simp [Visit.bill, Visit.accesses, Sprite.Control.descriptorBytes, skips, Visit.dataAccesses,
        Visit.frameAccesses, Visit.depositoryAccesses, none]
  | false =>
      obtain ⟨reported, _, script, _, counts⟩ := itemised.drawn skips
      have nothing : ∀ pass ∈ visit.passes, pass.superclipped = true → pass.dataBytes = 0 := by
        intro summary among superclipped
        rw [Visit.passes, reported] at among
        obtain ⟨pass, member, rfl⟩ := List.mem_map.1 among
        obtain ⟨entry, _, counted⟩ := Sprite.exists_entry counts member
        rw [counted.data, if_pos superclipped]
      have data : visit.dataAccesses = visit.headers + visit.dataBytes := by
        rw [Visit.headers, Visit.dataBytes, sum_dataBytes_filter nothing, ← sum_dataAccesses,
          Visit.dataAccesses, Visit.passes, reported]
        rfl
      have frame : visit.frameAccesses = 2 * visit.drawn + visit.blocked := by
        rw [Visit.drawn, Visit.blocked, ← sum_frameAccesses, Visit.frameAccesses, Visit.passes,
          reported]
        rfl
      simp only [Visit.bill, Visit.accesses, Sprite.Control.descriptorBytes, skips, data, frame,
        Visit.depositoryAccesses, reported, Option.isSome_some, Bool.false_eq_true, if_false,
        if_true]
      omega

/-! ## The bill for a run -/

theorem itemised_report (walk : Walk) :
    (walk.report walk.registers.nextDescriptor).Itemised walk := by
  let fetched := walk.fetched walk.registers.nextDescriptor
  have read : fetched.memory = walk.memory.charged fetched.descriptor.control.descriptorBytes :=
    Sprite.memory_fetch rfl
  refine ⟨?_, rfl, ?_, ?_⟩
  · change fetched = ⟨fetched.descriptor, fetched.latches,
      walk.memory.charged fetched.descriptor.control.descriptorBytes⟩
    rw [← read]
  · intro skips
    exact if_pos skips
  · intro draws control scenery canvas drawing
    have drawn : walk.drawing walk.registers.nextDescriptor = drawing := by
      change Sprite.draw _ _ _ ⟨fetched.memory, _⟩ = _
      rw [read]
      rfl
    refine ⟨?_, Sprite.counts_draw _ _ _ _⟩
    rw [← drawn]
    exact if_neg (Bool.eq_false_iff.1 draws)

end Chain

/-- **Each visit of a run counts what it does where the run has come to.** -/
theorem Run.itemised_visits (budget : Nat) (registers : Registers) (memory : Memory) :
    let begun : Chain.Walk := ⟨registers, Metered.fresh memory, []⟩
    ∀ (index : Nat) (visit : Chain.Visit),
      (Run.ofRegisters budget registers memory).visits[index]? = some visit →
        visit.Itemised (begun.after index) := by
  intro begun index visit made
  obtain ⟨count, visits⟩ := Chain.visits_ofRegisters budget registers memory
  rw [visits, List.getElem?_map] at made
  obtain ⟨place, there, rfl⟩ := Option.map_eq_some_iff.1 made
  obtain ⟨_, rfl⟩ := List.getElem?_eq_some_iff.1 there
  rw [List.getElem_range]
  exact Chain.itemised_report _

/-- **A start is billed once, item by item.** With the bus enabled the processor
is charged one time, with the accesses that the run's account holds. As long as
their counter has not come to its end these are the bills of the visits: five for
a sprite that is skipped; for any other eleven, the fields that its descriptor
carries, a header for each line and each end of data on every pass, the bytes of
lines that are drawn, two for each pixel drawn and one for each blocked, and what
is left in the depository. Each item counts what the visit did in memory as it
found it. With the bus disabled nothing is charged. -/
theorem start_billed_by_item {console : Console} {value : UInt8}
    (starts : Byte.flagged value 0x01 = true) :
    let registers := console.board.chip.registers.started value
    let run := Run.ofRegisters console.board.chip.config.budget registers console.board.memory
    let after := (console.write Console.startAddress value).board
    (console.board.chip.registers.busEnabled = true → run.memory.accesses < UInt32.size →
        after.charges = run.account.accesses :: console.board.charges
          ∧ after.chip.lastRun = some run.account
          ∧ run.account.accesses = (run.visits.map (Chain.Visit.bill registers.everOn)).sum
          ∧ ∀ (index : Nat) (visit : Chain.Visit), run.visits[index]? = some visit →
              visit.Itemised ((console.setsOut value).after index))
      ∧ (console.board.chip.registers.busEnabled = false →
        after.charges = console.board.charges) := by
  intro registers run after
  constructor
  · intro enabled small
    have itemised := Run.itemised_visits console.board.chip.config.budget registers
      console.board.memory
    have bills : run.visits.map (Chain.Visit.bill registers.everOn)
        = run.visits.map (Chain.Visit.accesses registers.everOn) :=
      List.map_congr_left fun visit member => by
        obtain ⟨index, there⟩ := List.mem_iff_getElem?.1 member
        exact (itemised index visit there).bill_eq _
    have counted : run.account.accesses = run.memory.accesses :=
      Nat.min_eq_left (Nat.le_sub_one_of_lt small)
    have left : after = (console.board.withRegisters registers).runSprites :=
      board_write_start enabled starts
    refine ⟨?_, ?_, ?_, itemised⟩
    · rw [left]
      rfl
    · rw [left]
      rfl
    · rw [counted, bills]
      exact Run.accesses_eq _ registers console.board.memory
  · intro disabled
    have left : after = (console.board.withRegisters registers).note [.startIgnored] :=
      (console.board_write_startAddress value).trans (Board.writeGo_of_disabled disabled starts)
    rw [left]
    rfl

/-- A chain that closes on itself is charged for as long as it is followed, and
nothing is charged before the bus is enabled. -/
theorem closedChain_billed_by_item :
    let run := Run.ofRegisters Console.closedChain.board.chip.config.budget
      (Console.closedChain.board.chip.registers.started 0x01) Console.closedChain.board.memory
    (Console.closedChain.write Console.startAddress 0x01).board.owed
        = (run.visits.map (Chain.Visit.bill false)).sum
      ∧ ((Console.powerOn Config.standard).write Console.startAddress 0x01).board.owed = 0 := by
  have starts : Byte.flagged 0x01 0x01 = true := by decide
  have few : Console.closedChain.board.chip.config.budget ≤ 21870 := Nat.le_refl 21870
  have counted := Run.counted_of_limit few (Console.closedChain.board.chip.registers.started 0x01)
    Console.closedChain.board.memory
  have small := counted.accesses
  rw [counted.exact] at small
  obtain ⟨charged, _, billed, _⟩ :=
    (@start_billed_by_item Console.closedChain 0x01 starts).1 rfl small
  have free := (@start_billed_by_item (Console.powerOn Config.standard) 0x01 starts).2 rfl
  have unnoted : (Console.closedChain.board.chip.registers.started 0x01).everOn = false := rfl
  have nothing : Console.closedChain.board.charges = [] := rfl
  have owed : (Console.closedChain.write Console.startAddress 0x01).board.owed
      = (Run.ofRegisters Console.closedChain.board.chip.config.budget
          (Console.closedChain.board.chip.registers.started 0x01)
          Console.closedChain.board.memory).account.accesses := by
    rw [Board.owed, charged, nothing]
    exact List.sum_singleton
  refine ⟨?_, ?_⟩
  · rw [owed, billed, unnoted]
  · rw [Board.owed, free]
    rfl

end LynxSuzy
