import LynxSuzy.Proofs.Consumption

/-!
Contract: what drawing a sprite does not look at.

Owns: drawings that have come to the same latches and the same passes, the
outcomes of single pixels apart, and the independence of a drawing from the
frame buffer, from the collision buffer and from the number that is to be
recorded there. Only what comes of a pixel depends on what is on the screen, and
where pens cover what they find not even the number of pixels drawn does.

Does **not** own: sprites that paint over their own data, which are drawn from
what they painted.
-/

set_option autoImplicit false

namespace LynxSuzy

/-! ## The number to record -/

namespace Sprite

def Scene.recording (scene : Scene) (collision : Option UInt8) : Scene :=
  { scene with collision := collision }

namespace Course

def recording (course : Course) (collision : Option UInt8) : Course :=
  { course with scene := course.scene.recording collision }

variable (course : Course) (collision : Option UInt8)

theorem rows_recording (pens : List UInt8) (height : Nat) :
    ∀ pencil : Pencil,
      (course.recording collision).rows pens height pencil = course.rows pens height pencil := by
  induction height with
  | zero => exact fun _ => rfl
  | succ height recurse =>
      intro pencil
      -- A single row takes the edges of the screen and the stretch from the scene.
      have here : (course.recording collision).row pens pencil = course.row pens pencil := rfl
      simp only [rows, here, recurse]
      rfl

theorem lineRows_recording (bytes : List UInt8) (height : Nat) (pencil : Pencil) :
    (course.recording collision).lineRows bytes height pencil
      = course.lineRows bytes height pencil := by
  rw [lineRows_eq, lineRows_eq]
  exact course.rows_recording collision _ height pencil

/-- **The shape of a pass** does not depend on the number to record. -/
theorem trace_recording (lines : List (List UInt8)) :
    ∀ (pencil : Pencil) (carry : UInt16),
      (course.recording collision).trace lines pencil carry
        = course.trace lines pencil carry := by
  induction lines with
  | nil => exact fun _ _ => rfl
  | cons bytes lines recurse =>
      intro pencil carry
      simp only [trace, lineRows_recording, recurse]

end Course

/-! ## Drawings that differ in outcomes alone -/

/-- A pass without what came of its pixels. -/
def Pass.outline (pass : Pass) : Pass :=
  { pass with summary := { pass.summary with drawn := 0, blocked := 0 } }

/-- Drawings that have come to the same latches and passes, whatever is on their
canvases and came of their pixels. -/
structure Drawing.Alike (first second : Drawing) : Prop where
  latches : first.latches = second.latches
  outlines : first.reversedPasses.map Pass.outline = second.reversedPasses.map Pass.outline
  overrun : first.overrun = second.overrun

namespace Drawing.Alike

variable {first second : Drawing} (alike : first.Alike second)

include alike

theorem passes : first.passes.map Pass.outline = second.passes.map Pass.outline := by
  rw [Drawing.passes, Drawing.passes, List.map_reverse, List.map_reverse, alike.outlines]

theorem placements : first.placements = second.placements := by
  have rows (drawing : Drawing) :
      drawing.placements = (drawing.passes.map Pass.outline).flatMap Pass.placements := by
    rw [List.flatMap_map]
    rfl
  rw [rows, rows, alike.passes]

theorem rendered (quadrant : Quadrant) :
    first.summary.rendered quadrant = second.summary.rendered quadrant := by
  have outlined (drawing : Drawing) :
      drawing.summary.rendered quadrant
        = (drawing.passes.map Pass.outline).any fun pass =>
            pass.summary.quadrant = quadrant && !pass.summary.superclipped := by
    rw [List.any_map]
    exact List.any_map
  rw [outlined, outlined, alike.passes]

theorem everOnScreen : first.summary.everOnScreen = second.summary.everOnScreen := by
  have outlined (drawing : Drawing) :
      drawing.summary.everOnScreen
        = (drawing.reversedPasses.map Pass.outline).any fun pass =>
            pass.rows.any fun row => !row.placements.isEmpty := by
    rw [List.any_map]
    rfl
  rw [outlined, outlined, alike.outlines]

end Drawing.Alike

namespace Job

def recording (job : Job) (collision : Option UInt8) : Job :=
  { job with scene := job.scene.recording collision }

variable (job : Job) (collision : Option UInt8)

/-- **An entry is drawn or passed over, and placed, by the latches alone.** -/
theorem alike_perform {first second : Drawing} (alike : first.Alike second)
    (entry : Quadrant × Reading) :
    ((job.recording collision).perform first entry).Alike (job.perform second entry) := by
  obtain ⟨quadrant, reading⟩ := entry
  have shape : ((job.recording collision).course quadrant).passTrace reading.lines first.latches
      = (job.course quadrant).passTrace reading.lines second.latches := by
    rw [alike.latches]
    exact (job.course quadrant).trace_recording collision reading.lines _ _
  cases draws : job.draws quadrant second.latches with
  | true =>
      have drawsToo : (job.recording collision).draws quadrant first.latches = true :=
        alike.latches ▸ draws
      rw [perform_of_draws reading drawsToo, perform_of_draws reading draws]
      refine ⟨?_, ?_, alike.overrun⟩
      · simp only [drawReading, shape]
      · simp only [drawReading, shape, List.map_cons, alike.outlines, Pass.outline]
  | false =>
      have skipsToo : (job.recording collision).draws quadrant first.latches = false :=
        alike.latches ▸ draws
      rw [perform_of_skips reading skipsToo, perform_of_skips reading draws]
      refine ⟨alike.latches, ?_, alike.overrun⟩
      simp only [skipReading, List.map_cons, alike.outlines]

theorem alike_foldl (script : List (Quadrant × Reading)) :
    ∀ {first second : Drawing}, first.Alike second →
      (script.foldl (job.recording collision).perform first).Alike
        (script.foldl job.perform second) := by
  induction script with
  | nil => exact fun alike => alike
  | cons entry rest recurse => exact fun alike => recurse (job.alike_perform collision alike entry)

theorem placements_performAll (script : List (Quadrant × Reading)) (data : UInt16)
    (latches : Latches) (canvas other : Canvas) :
    (job.performAll script (Drawing.start data latches canvas)).placements
      = (job.performAll script (Drawing.start data latches other)).placements := by
  have begun : (Drawing.start data latches canvas).Alike (Drawing.start data latches other) :=
    ⟨rfl, rfl, rfl⟩
  exact (job.alike_foldl job.scene.collision script begun).placements

end Job

section Canvases

variable {scene : Scene} {descriptor : Descriptor} {latches : Latches} {canvas again : Canvas}

/-- **A sprite is drawn alike on two canvases** that hold its data outside the
frame buffer, whatever number it is to record. -/
theorem draw_alike (collision : Option UInt8)
    (apart : DataApart scene.videoBase (Cursor.start descriptor.data)
      (scriptBytes (readSprite canvas.memory.memory descriptor.data
        descriptor.control.startQuadrant)))
    (same : ∀ address, (Cursor.start descriptor.data).covers
      (scriptBytes (readSprite canvas.memory.memory descriptor.data
        descriptor.control.startQuadrant)) address →
      again.memory.memory.get address = canvas.memory.memory.get address) :
    (draw (scene.recording collision) descriptor latches again).Alike
      (draw scene descriptor latches canvas) := by
  -- Both canvases are drawn from one script: the bytes it is read from are the same.
  have script : readSprite again.memory.memory descriptor.data descriptor.control.startQuadrant
      = readSprite canvas.memory.memory descriptor.data descriptor.control.startQuadrant :=
    readQuadrants_congr 4 descriptor.control.startQuadrant (Cursor.start descriptor.data) same
  have begun : (Drawing.start descriptor.data latches again).Alike
      (Drawing.start descriptor.data latches canvas) := ⟨rfl, rfl, rfl⟩
  have alike := (Job.ofSprite scene descriptor latches).alike_foldl collision
    (readSprite canvas.memory.memory descriptor.data descriptor.control.startQuadrant) begun
  have first := draw_eq_performAll latches apart
  rw [← script] at apart
  have second := @draw_eq_performAll (scene.recording collision) descriptor again latches apart
  rw [first, second, script]
  exact ⟨alike.latches, alike.outlines, rfl⟩

end Canvases

/-! ## How many pixels are drawn -/

def Placement.visible (placement : Placement) : Bool :=
  Screen.has placement.x placement.y && decide (Byte.nibble placement.pen .low ≠ 0)

end Sprite

/-- All blends but the background draw over whatever they find. -/
theorem Blend.combine_ne_none {blend : Blend} (draws : blend ≠ .background)
    (existing pen : UInt8) : blend.combine existing pen ≠ none := by
  cases blend with
  | background => exact absurd rfl draws
  | normal | nonCollidable | shadow => exact Option.some_ne_none _

namespace Sprite

theorem Painted.drawn_add {brush : Brush} (draws : brush.blend ≠ .background) (painted : Painted)
    (placement : Placement) :
    (painted.add brush placement).drawn
      = painted.drawn + if placement.visible then 1 else 0 := by
  unfold Painted.add Placement.visible
  cases onScreen : Screen.has placement.x placement.y with
  | false =>
      rw [Brush.plot_of_outside onScreen]
      rfl
  | true =>
      by_cases clear : Byte.nibble placement.pen .low = 0
      · rw [Brush.plot_of_transparent onScreen clear, clear]
        rfl
      · obtain ⟨value, mixed⟩ := Option.ne_none_iff_exists'.1
          (Blend.combine_ne_none draws (brush.found painted.canvas placement.x placement.y)
            (Byte.nibble placement.pen .low))
        rw [Brush.plot_of_drawn onScreen clear mixed]
        simp only [Bool.true_and, ne_eq, clear, not_false_eq_true, decide_true, if_true]

theorem Painted.drawn_addAll {brush : Brush} (draws : brush.blend ≠ .background)
    (placements : List Placement) :
    ∀ painted : Painted, (painted.addAll brush placements).drawn
      = painted.drawn + placements.countP Placement.visible := by
  induction placements with
  | nil => exact fun _ => rfl
  | cons placement rest recurse =>
      intro painted
      have further := recurse (painted.add brush placement)
      simp only [addAll, List.foldl_cons] at further ⊢
      rw [further, drawn_add draws, List.countP_cons]
      omega

/-- **Where pens cover what they find, a pass draws its visible placements.** -/
theorem drawn_draw (scene : Scene) {descriptor : Descriptor} (latches : Latches) (canvas : Canvas)
    (draws : descriptor.control.kind.blend ≠ .background) :
    ∀ pass ∈ (draw scene descriptor latches canvas).passes,
      pass.summary.drawn = pass.placements.countP Placement.visible := by
  let job := Job.ofSprite scene descriptor latches
  obtain ⟨script, _, drawn, _, relates⟩ := draw_spec scene descriptor latches canvas
    (fun _ => True) (fun pass _ => pass.summary.drawn = pass.placements.countP Placement.visible)
    (fun drawing entry _ _ => by
      refine ⟨trivial, ?_⟩
      obtain ⟨quadrant, reading⟩ := entry
      cases chosen : job.draws quadrant drawing.latches with
      | true =>
          rw [Job.perform_of_draws reading chosen]
          refine ⟨_, rfl, ?_⟩
          simp only [Painted.addRows_eq]
          rw [Painted.drawn_addAll draws, Nat.zero_add]
          rfl
      | false =>
          rw [Job.perform_of_skips reading chosen]
          exact ⟨_, rfl, rfl⟩)
    trivial
  intro pass member
  rw [drawn] at member
  obtain ⟨_, _, counted⟩ := exists_entry relates member
  exact counted

theorem pixels_of_drawn {drawing : Drawing}
    (drawn : ∀ pass ∈ drawing.passes,
      pass.summary.drawn = pass.placements.countP Placement.visible) (quadrant : Quadrant) :
    drawing.summary.pixels quadrant
      = (((drawing.passes.map Pass.outline).filter fun pass =>
          pass.summary.quadrant = quadrant).map fun pass =>
            pass.placements.countP Placement.visible).sum := by
  have named : (drawing.passes.map Pass.summary).filter (fun pass => pass.quadrant = quadrant)
      = (drawing.passes.filter fun pass => pass.summary.quadrant = quadrant).map Pass.summary :=
    List.filter_map
  have outlined : (drawing.passes.map Pass.outline).filter
        (fun pass => pass.summary.quadrant = quadrant)
      = (drawing.passes.filter fun pass => pass.summary.quadrant = quadrant).map Pass.outline :=
    List.filter_map
  show (((drawing.passes.map Pass.summary).filter fun pass => pass.quadrant = quadrant).map
    PassSummary.drawn).sum = _
  rw [named, outlined, List.map_map, List.map_map]
  congr 1
  apply List.map_congr_left
  intro pass member
  exact drawn pass (List.mem_of_mem_filter member)

/-- **Drawing is blind to the screen and to collisions.** A sprite whose data lies
outside the frame buffer is drawn on two canvases, which differ in the frame
buffer, in the collision buffer and in the accesses counted so far, and for two
numbers to record. Both drawings plot the same pens on the same positions in the
same order, and come to the same latches and the same passes. Unless the sprite
fills the background only, they draw the same number of pixels in each quadrant,
too. -/
theorem drawing_is_blind {scene : Scene} {descriptor : Descriptor} (latches : Latches)
    (collision : Option UInt8) {canvas other : Canvas}
    (agree : Memory.AgreeOutside scene.videoBase other.memory.memory canvas.memory.memory)
    (apart : DataApart scene.videoBase (Cursor.start descriptor.data)
      (scriptBytes (readSprite canvas.memory.memory descriptor.data
        descriptor.control.startQuadrant))) :
    let first := draw scene descriptor latches canvas
    let second := draw (scene.recording collision) descriptor latches other
    (∃ count, first.canvas
        = (Painted.plotAll (Job.ofSprite scene descriptor latches).brush canvas
            first.placements).charged count)
      ∧ (∃ count, second.canvas
        = (Painted.plotAll (Job.ofSprite (scene.recording collision) descriptor latches).brush
            other second.placements).charged count)
      ∧ second.placements = first.placements
      ∧ second.latches = first.latches
      ∧ (∀ quadrant, second.summary.rendered quadrant = first.summary.rendered quadrant)
      ∧ second.summary.everOnScreen = first.summary.everOnScreen
      ∧ second.summary.overrun = first.summary.overrun
      ∧ (descriptor.control.kind.blend ≠ .background →
        ∀ quadrant, second.summary.pixels quadrant = first.summary.pixels quadrant) := by
  intro first second
  have alike : second.Alike first :=
    draw_alike collision apart fun address covered => agree address (apart address covered)
  refine ⟨canvas_draw _ _ _ _, canvas_draw _ _ _ _, alike.placements, alike.latches,
    alike.rendered, alike.everOnScreen, alike.overrun, ?_⟩
  intro draws quadrant
  rw [pixels_of_drawn (drawn_draw _ latches other draws),
    pixels_of_drawn (drawn_draw _ latches canvas draws)]
  rw [show second.passes.map Pass.outline = first.passes.map Pass.outline from alike.passes]

/-- The sample sprite on an empty screen, and on one that holds something, where
it is to record what it meets. -/
theorem sample_is_blind :
    let scene : Scene := ⟨0, 0, 0xC000, false, none⟩
    let written := sampleMemory.set 0xC000 0xFF
    let first := draw scene sampleSprite Latches.initial
      ⟨Metered.fresh sampleMemory, Collisions.empty⟩
    let second := draw (scene.recording (some 5)) sampleSprite Latches.initial
      ⟨⟨written, 7⟩, Collisions.empty.set 5 9⟩
    Memory.AgreeOutside 0xC000 written sampleMemory
      ∧ DataApart 0xC000 (Cursor.start 0x3000)
        (scriptBytes (readSprite sampleMemory 0x3000 .downRight))
      ∧ sampleSprite.control.kind.blend ≠ .background
      ∧ second.placements = first.placements
      ∧ ∀ quadrant, second.summary.pixels quadrant = first.summary.pixels quadrant := by
  intro scene written first second
  have start : sampleSprite.control.startQuadrant = .downRight := by decide
  have draws : sampleSprite.control.kind.blend ≠ .background := by decide
  have agree : Memory.AgreeOutside 0xC000 written sampleMemory :=
    Memory.agreeOutside_set 0xC000 sampleMemory 0xFF (by decide)
  have apart := sample_apart slice_sampleMemory .downRight
  obtain ⟨_, _, placements, _, _, _, _, pixels⟩ := @drawing_is_blind scene sampleSprite
    Latches.initial (some 5) ⟨Metered.fresh sampleMemory, Collisions.empty⟩
    ⟨⟨written, 7⟩, Collisions.empty.set 5 9⟩ agree (by rw [start]; exact apart)
  exact ⟨agree, apart, draws, placements, pixels draws⟩

end Sprite

end LynxSuzy
