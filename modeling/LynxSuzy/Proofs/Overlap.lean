import LynxSuzy.Proofs.Bounds
import LynxSuzy.Proofs.Latches
import LynxSuzy.Proofs.Nibbles
import Mathlib.Data.List.Iterate

/-!
Contract: how often a sprite paints a position.

Owns: the side of the origin that each direction draws on, the passes of a
sprite as passes over different quadrants, and what follows. A pass paints each
position at most once, and so does a sprite without a tilt, which therefore
meets nothing but what was on the screen before it.

Does **not** own: sprites with a tilt, whose quadrants can lean into each other.
-/

set_option autoImplicit false

namespace LynxSuzy

/-! ## The sides of an origin -/

namespace Sprite

namespace Direction

/-- A coordinate on the side of an origin that is drawn in a direction. -/
def Side (direction first : Direction) (origin coordinate : Int) : Prop :=
  ∃ steps : Nat, coordinate = origin + direction.seam first + direction.sign * steps

/-- **No coordinate is on both sides of an origin**, which belongs to the first
side. -/
theorem Side.unique {direction other first : Direction} {origin coordinate : Int}
    (here : direction.Side first origin coordinate) (there : other.Side first origin coordinate) :
    direction = other := by
  obtain ⟨steps, rfl⟩ := here
  obtain ⟨back, same⟩ := there
  by_contra apart
  cases direction <;> cases other <;> cases first <;> simp [seam, sign] at apart same <;> omega

theorem flippedIf_injective (flip : Bool) : Function.Injective (flippedIf · flip) := by
  intro direction other same
  revert same
  cases flip <;> cases direction <;> cases other <;> decide

end Direction

namespace Quadrant

theorem eq_of_directions {quadrant other : Quadrant}
    (across : quadrant.horizontal = other.horizontal) (down : quadrant.vertical = other.vertical) :
    quadrant = other := by
  revert across down
  cases quadrant <;> cases other <;> decide

theorem flipped_injective (control : Control) : Function.Injective (flipped · control) := by
  intro quadrant other same
  have across := congrArg horizontal same
  have down := congrArg vertical same
  simp only [flipped, horizontal_ofDirections, vertical_ofDirections] at across down
  exact eq_of_directions (Direction.flippedIf_injective _ across)
    (Direction.flippedIf_injective _ down)

end Quadrant

/-- A placement in the quadrant of the screen that a course draws. -/
structure Course.Faces (course : Course) (latches : Latches) (placement : Placement) : Prop where
  across : course.heading.horizontal.Side course.first.horizontal
    (Word.signed latches.hpos - course.scene.left) placement.x
  down : course.heading.vertical.Side course.first.vertical
    (Word.signed latches.vpos - course.scene.top) placement.y

namespace Course

variable {course : Course} {latches : Latches}

theorem across_row (untilted : course.control.reload.hasTilt = false) (pens : List UInt8)
    {pencil : Pencil} (steady : course.Steady latches pencil) :
    ∀ placement ∈ (course.row pens pencil).1.placements,
      course.heading.horizontal.Side course.first.horizontal
        (Word.signed latches.hpos - course.scene.left) placement.x := by
  intro placement member
  unfold row at member
  split at member
  · rw [settle_of_level (steady.level untilted)] at member
    obtain ⟨_, _, _, offset, _, _, _, place⟩ := mem_spread_iff.1 member
    rw [steady.spared.hpos untilted] at place
    exact ⟨offset, place⟩
  · cases member

/-- **Without a tilt a pass keeps to its quadrant**, however the sizes change. -/
theorem faces_pass (untilted : course.control.reload.hasTilt = false) (lines : List (List UInt8)) :
    ∀ placement ∈ (course.passTrace lines latches).rows.flatMap Row.placements,
      course.Faces latches placement := by
  intro placement member
  obtain ⟨row, among, inRow⟩ := List.mem_flatMap.1 member
  have across := (course.trace_spec (course.Steady latches)
    (fun row => ∀ placement ∈ row.placements,
      course.heading.horizontal.Side course.first.horizontal
        (Word.signed latches.hpos - course.scene.left) placement.x)
    (fun pens _ steady _ => ⟨steady.row pens, across_row untilted pens steady⟩)
    lines (course.pencil latches) _ (course.steady_pencil latches)).2 row among
  have line := (course.wellPlaced_trace lines (course.pencil latches) _ row among).onLine
  have reached : row.y ∈ (course.passTrace lines latches).rows.map Row.y :=
    List.mem_map_of_mem among
  rw [passTrace, (course.y_trace lines (course.pencil latches) _).1, Direction.mem_run_iff]
    at reached
  obtain ⟨steps, _, place⟩ := reached
  refine ⟨across placement inRow, steps, ?_⟩
  rw [line placement inRow]
  exact place

end Course

/-! ## Passes over different quadrants -/

theorem IsScript.quadrants_prefix {count : Nat} {quadrant : Quadrant} {cursor : Cursor}
    {script : List (Quadrant × Reading)} (valid : IsScript count quadrant cursor script) :
    script.map Prod.fst <+: List.iterate Quadrant.next quadrant count := by
  induction valid with
  | none => exact List.nil_prefix
  | last => exact List.cons_prefix_cons.2 ⟨rfl, List.nil_prefix⟩
  | more _ _ _ recurse => exact List.cons_prefix_cons.2 ⟨rfl, recurse⟩

/-- **A script has each quadrant at most once.** -/
theorem IsScript.nodup_quadrants {quadrant : Quadrant} {cursor : Cursor}
    {script : List (Quadrant × Reading)} (valid : IsScript 4 quadrant cursor script) :
    (script.map Prod.fst).Nodup := by
  have round : (List.iterate Quadrant.next quadrant 4).Nodup := by
    cases quadrant <;> decide
  exact round.sublist valid.quadrants_prefix.sublist

structure Pass.Placed (job : Job) (latches : Latches) (pass : Pass) : Prop where
  once : (pass.placements.map Placement.position).Nodup
  onScreen : ∀ placement ∈ pass.placements, Screen.has placement.x placement.y = true
  counted : pass.summary.drawn ≤ pass.placements.length
  faces : job.control.reload.hasTilt = false →
    ∀ placement ∈ pass.placements, (job.course pass.summary.quadrant).Faces latches placement

theorem Pass.Placed.drawn_le {job : Job} {latches : Latches} {pass : Pass}
    (placed : pass.Placed job latches) : pass.summary.drawn ≤ Screen.width * Screen.height :=
  Nat.le_trans placed.counted (length_le_of_nodup placed.onScreen placed.once)

theorem Job.placed_perform (job : Job) {latches : Latches} {drawing : Drawing}
    (entry : Quadrant × Reading) (spared : job.control.reload.Spares latches drawing.latches) :
    ∃ pass, (job.perform drawing entry).reversedPasses = pass :: drawing.reversedPasses
      ∧ pass.summary.quadrant = entry.1 ∧ pass.Placed job latches := by
  obtain ⟨quadrant, reading⟩ := entry
  cases draws : job.draws quadrant drawing.latches with
  | true =>
      rw [perform_of_draws reading draws]
      refine ⟨_, rfl, rfl, ?_, ?_, ?_, ?_⟩
      · exact (job.course quadrant).nodup_positions_trace _ _ _
      · intro placement member
        exact (job.course quadrant).has_of_mem_trace _ _ _ member
      · apply Nat.le_trans (Nat.le_add_right _ _)
        exact Painted.counted_addRows job.brush drawing.canvas _
      · intro untilted placement member
        have faces := (Course.faces_pass untilted reading.lines : ∀ placement ∈
          ((job.course quadrant).passTrace reading.lines drawing.latches).rows.flatMap
            Row.placements, _) placement member
        obtain ⟨across, down⟩ := faces
        rw [spared.hpos untilted] at across
        rw [spared.vpos] at down
        exact ⟨across, down⟩
  | false =>
      rw [perform_of_skips reading draws]
      refine ⟨_, rfl, rfl, List.nodup_nil, ?_, Nat.le_refl _, ?_⟩
      · intro placement member
        cases member
      · intro _ placement member
        cases member

/-- **The passes of a sprite go over different quadrants**, whatever the memory
holds while it is drawn. -/
theorem placed_draw (scene : Scene) (descriptor : Descriptor) (latches : Latches)
    (canvas : Canvas) :
    let passes := (draw scene descriptor latches canvas).passes
    (passes.map fun pass => pass.summary.quadrant).Nodup
      ∧ ∀ pass ∈ passes, pass.Placed (Job.ofSprite scene descriptor latches) latches := by
  obtain ⟨script, valid, drawn, _, relates⟩ := draw_spec scene descriptor latches canvas
    (fun drawing => descriptor.control.reload.Spares latches drawing.latches)
    (fun pass entry => pass.summary.quadrant = entry.1
      ∧ pass.Placed (Job.ofSprite scene descriptor latches) latches)
    (fun drawing entry _ spared =>
      ⟨(Job.ofSprite scene descriptor latches).spares_perform entry spared,
        (Job.ofSprite scene descriptor latches).placed_perform entry spared⟩)
    (Reload.Spares.refl _ latches)
  rw [drawn]
  refine ⟨?_, ?_⟩
  · have named : List.Forall₂ Eq
        ((script.foldl (Job.ofSprite scene descriptor latches).perform
          (Drawing.start descriptor.data latches canvas)).passes.map
            fun pass => pass.summary.quadrant)
        (script.map Prod.fst) := by
      rw [List.forall₂_map_left_iff, List.forall₂_map_right_iff]
      exact relates.imp fun _ _ related => related.1
    rw [List.forall₂_eq_eq_eq] at named
    show (List.map (fun pass => pass.summary.quadrant) (Drawing.passes _)).Nodup
    exact named ▸ valid.nodup_quadrants
  · intro pass member
    obtain ⟨_, _, related⟩ := exists_entry relates member
    exact related.2

/-- A sprite visits positions on the screen only. -/
theorem has_of_mem_draw {scene : Scene} {descriptor : Descriptor} {latches : Latches}
    {canvas : Canvas} :
    ∀ placement ∈ (draw scene descriptor latches canvas).placements,
      Screen.has placement.x placement.y = true := by
  intro placement member
  obtain ⟨pass, among, inPass⟩ := List.mem_flatMap.1 member
  exact ((placed_draw scene descriptor latches canvas).2 pass among).onScreen placement inPass

theorem nodup_passes {job : Job} {latches : Latches} {passes : List Pass}
    (untilted : job.control.reload.hasTilt = false)
    (apart : (passes.map fun pass => pass.summary.quadrant).Nodup)
    (placed : ∀ pass ∈ passes, pass.Placed job latches) :
    ((passes.flatMap Pass.placements).map Placement.position).Nodup := by
  rw [List.map_flatMap, List.nodup_flatMap]
  constructor
  · exact fun pass member => (placed pass member).once
  · rw [List.Nodup, List.pairwise_map] at apart
    apply apart.imp_of_mem
    intro pass other member otherMember distinct position inPass inOther
    obtain ⟨one, oneMember, rfl⟩ := List.mem_map.1 inPass
    obtain ⟨two, twoMember, same⟩ := List.mem_map.1 inOther
    have here := (placed pass member).faces untilted one oneMember
    have there := (placed other otherMember).faces untilted two twoMember
    obtain ⟨column, line⟩ := Prod.mk.inj same
    -- The position is on the same sides of the origin for both passes.
    apply distinct
    apply Quadrant.flipped_injective job.control
    apply Quadrant.eq_of_directions
    · exact here.across.unique (column ▸ there.across)
    · exact here.down.unique (line ▸ there.down)

/-- One pass at most draws a quadrant. -/
theorem pixels_le {summary : Summary} {most : Nat}
    (apart : (summary.passes.map PassSummary.quadrant).Nodup)
    (each : ∀ pass ∈ summary.passes, pass.drawn ≤ most) (quadrant : Quadrant) :
    summary.pixels quadrant ≤ most := by
  have single : (summary.passes.filter fun pass => pass.quadrant = quadrant).length ≤ 1 := by
    have count := List.nodup_iff_count_le_one.1 apart quadrant
    rw [List.count, List.countP_map, List.countP_eq_length_filter] at count
    exact count
  calc summary.pixels quadrant
      ≤ (summary.passes.filter fun pass => pass.quadrant = quadrant).length * most :=
        sum_map_le fun pass member => each pass (List.mem_of_mem_filter member)
    _ ≤ 1 * most := Nat.mul_le_mul_right most single
    _ = most := Nat.one_mul most

end Sprite

/-! ## What is met -/

namespace Brush

/-- The collision buffer after a placement on the screen has been plotted over
what a canvas holds. -/
def record (brush : Brush) (canvas : Canvas) (collisions : Collisions)
    (placement : Sprite.Placement) : Collisions :=
  let existing := brush.found canvas placement.x placement.y
  let pen := Byte.nibble placement.pen .low
  if pen ≠ 0 ∧ (brush.blend.combine existing pen).isSome then brush.collide collisions existing
  else collisions

theorem record_congr {brush : Brush} {first second : Canvas} {placement : Sprite.Placement}
    (same : brush.found first placement.x placement.y = brush.found second placement.x placement.y)
    (collisions : Collisions) :
    brush.record first collisions placement = brush.record second collisions placement := by
  simp only [record, same]

theorem collisions_plot (brush : Brush) (canvas : Canvas) {placement : Sprite.Placement}
    (onScreen : Screen.has placement.x placement.y = true) :
    (brush.plot canvas placement.x placement.y placement.pen).2.collisions
      = brush.record canvas canvas.collisions placement := by
  by_cases clear : Byte.nibble placement.pen .low = 0
  · rw [plot_of_transparent onScreen clear, record, if_neg (fun drawn => drawn.1 clear)]
  · cases mixed : brush.blend.combine (brush.found canvas placement.x placement.y)
      (Byte.nibble placement.pen .low) with
    | none =>
        rw [plot_of_blocked onScreen clear mixed, record, mixed, if_neg (by simp)]
        rfl
    | some value =>
        rw [plot_of_drawn onScreen clear mixed, record, mixed, if_pos ⟨clear, rfl⟩]

end Brush

namespace Sprite

/-- **Placements that visit each position once meet what a canvas held before
them.** -/
theorem collisions_plotAll {brush : Brush} {canvas : Canvas} {placements : List Placement}
    (onScreen : ∀ placement ∈ placements, Screen.has placement.x placement.y = true)
    (once : (placements.map Placement.position).Nodup) :
    (Painted.plotAll brush canvas placements).collisions
      = placements.foldl (brush.record canvas) canvas.collisions := by
  -- On the way the canvas is another one, but not yet where there is still to plot.
  suffices further : ∀ now : Canvas,
      (∀ placement ∈ placements, brush.found now placement.x placement.y
        = brush.found canvas placement.x placement.y) →
      (Painted.plotAll brush now placements).collisions
        = placements.foldl (brush.record canvas) now.collisions from
    further canvas fun _ _ => rfl
  induction placements with
  | nil => exact fun _ _ => rfl
  | cons placement rest recurse =>
      intro now same
      rw [List.map_cons, List.nodup_cons] at once
      have here := onScreen placement List.mem_cons_self
      have met := brush.collisions_plot now here
      rw [Brush.record_congr (same placement List.mem_cons_self)] at met
      rw [List.foldl_cons, ← met]
      apply recurse
      · exact fun later member => onScreen later (List.mem_cons_of_mem _ member)
      · exact once.2
      · intro later member
        have there := onScreen later (List.mem_cons_of_mem _ member)
        rw [brush.found_plot now _ _ _ there, if_neg]
        · exact same later (List.mem_cons_of_mem _ member)
        · exact fun again => once.1 (List.mem_map.2 ⟨later, member, again.symm⟩)

/-- **No position is painted twice, so no sprite without a tilt meets itself.**
This holds for any memory, even if the sprite paints over its own data, and for
any latches and corner of the screen. All that drawing writes is plotted, and in
one pass each position is plotted at most once. Without a tilt this holds of all
passes together, and what is found at a position when it is plotted is what was
there before the sprite: the collision buffer comes out as if every meeting had
been looked up on the untouched screen. -/
theorem draw_paints_once (scene : Scene) (descriptor : Descriptor) (latches : Latches)
    (canvas : Canvas) :
    let brush := (Job.ofSprite scene descriptor latches).brush
    let drawing := draw scene descriptor latches canvas
    (∃ count, drawing.canvas
        = (Painted.plotAll brush canvas drawing.placements).charged count)
      ∧ (∀ pass ∈ drawing.passes, (pass.placements.map Placement.position).Nodup)
      ∧ (∀ quadrant, drawing.summary.pixels quadrant ≤ 160 * 102)
      ∧ (descriptor.control.reload.hasTilt = false →
        (drawing.placements.map Placement.position).Nodup
          ∧ drawing.summary.totalPixels ≤ 160 * 102
          ∧ (∀ earlier placement later,
            drawing.placements = earlier ++ placement :: later →
              brush.found (Painted.plotAll brush canvas earlier) placement.x placement.y
                = brush.found canvas placement.x placement.y)
          ∧ drawing.canvas.collisions
            = drawing.placements.foldl (brush.record canvas) canvas.collisions) := by
  intro brush drawing
  obtain ⟨apart, placed⟩ := placed_draw scene descriptor latches canvas
  obtain ⟨count, painted⟩ := canvas_draw scene descriptor latches canvas
  have names : drawing.summary.passes.map PassSummary.quadrant
      = drawing.passes.map fun pass => pass.summary.quadrant := List.map_map
  refine ⟨⟨count, painted⟩, fun pass member => (placed pass member).once, ?_, ?_⟩
  · apply pixels_le
    · rw [names]
      exact apart
    · intro summary member
      obtain ⟨pass, among, rfl⟩ := List.mem_map.1 member
      exact (placed pass among).drawn_le
  · intro untilted
    have once : (drawing.placements.map Placement.position).Nodup :=
      @nodup_passes (Job.ofSprite scene descriptor latches) latches drawing.passes untilted apart
        placed
    have onScreen : ∀ placement ∈ drawing.placements,
        Screen.has placement.x placement.y = true := by
      intro placement member
      obtain ⟨pass, among, inPass⟩ := List.mem_flatMap.1 member
      exact (placed pass among).onScreen placement inPass
    refine ⟨once, ?_, ?_, ?_⟩
    · calc drawing.summary.totalPixels
          = (drawing.passes.map fun pass => pass.summary.drawn).sum :=
            congrArg List.sum List.map_map
        _ ≤ (drawing.passes.map fun pass => pass.placements.length).sum :=
            List.sum_le_sum fun pass member => (placed pass member).counted
        _ = drawing.placements.length := List.length_flatMap.symm
        _ ≤ 160 * 102 := length_le_of_nodup onScreen once
    · intro earlier placement later split
      have here : placement ∈ drawing.placements := by
        rw [split]
        exact List.mem_append_right _ List.mem_cons_self
      apply found_plotAll_of_notMem brush canvas (onScreen placement here)
      intro again
      rw [split, List.map_append, List.nodup_append] at once
      exact once.2.2 _ again _ List.mem_cons_self rfl
    · rw [painted]
      exact collisions_plotAll onScreen once

/-- Two quadrants of a line each, drawn next to each other. -/
theorem sample_paints_once :
    let scene : Scene := ⟨0, 0, 0xC000, false, some 5⟩
    let drawing := draw scene sampleSprite Latches.initial
      ⟨Metered.fresh sampleMemory, Collisions.empty⟩
    sampleSprite.control.reload.hasTilt = false
      ∧ (drawing.placements.map Placement.position).Nodup
      ∧ drawing.summary.totalPixels ≤ 160 * 102 := by
  intro scene drawing
  have untilted : sampleSprite.control.reload.hasTilt = false := by decide
  obtain ⟨_, _, _, all⟩ := draw_paints_once scene sampleSprite Latches.initial
    ⟨Metered.fresh sampleMemory, Collisions.empty⟩
  obtain ⟨once, most, _⟩ := all untilted
  exact ⟨untilted, once, most⟩

end Sprite

end LynxSuzy
