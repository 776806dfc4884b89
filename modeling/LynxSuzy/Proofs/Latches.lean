import LynxSuzy.Proofs.Scaling

/-!
Contract: what drawing does to the latches.

Owns: the latches that a row, a pass and a whole sprite leave alone. Only a
stretch changes the sizes, and only a tilt the horizontal position.

Does **not** own: what a descriptor loads into the latches (`Proofs.Layout`).
-/

set_option autoImplicit false

namespace LynxSuzy.Sprite

/-- Latches after some drawing, which may have moved what the optional fields of
the descriptor let it and nothing else. -/
structure Reload.Spares (reload : Reload) (before after : Latches) : Prop where
  hpos : reload.hasTilt = false → after.hpos = before.hpos
  vpos : after.vpos = before.vpos
  sizes : reload.hasStretch = false → after.hsize = before.hsize ∧ after.vsize = before.vsize
  stretch : after.stretch = before.stretch
  tilt : after.tilt = before.tilt
  palette : after.palette = before.palette

theorem Reload.Spares.refl (reload : Reload) (latches : Latches) : reload.Spares latches latches :=
  ⟨fun _ => rfl, rfl, fun _ => ⟨rfl, rfl⟩, rfl, rfl, rfl⟩

theorem Reload.Spares.trans {reload : Reload} {first second third : Latches}
    (before : reload.Spares first second) (after : reload.Spares second third) :
    reload.Spares first third where
  hpos untilted := (after.hpos untilted).trans (before.hpos untilted)
  vpos := after.vpos.trans before.vpos
  sizes unstretched :=
    ⟨(after.sizes unstretched).1.trans (before.sizes unstretched).1,
      (after.sizes unstretched).2.trans (before.sizes unstretched).2⟩
  stretch := after.stretch.trans before.stretch
  tilt := after.tilt.trans before.tilt
  palette := after.palette.trans before.palette

namespace Course

variable (course : Course)

/-- A pencil on its way through a pass that began with the given latches. Without
a tilt it never leans. -/
structure Steady (latches : Latches) (pencil : Pencil) : Prop where
  spared : course.control.reload.Spares latches pencil.latches
  level : course.control.reload.hasTilt = false → pencil.lean = 0

theorem steady_pencil (latches : Latches) : course.Steady latches (course.pencil latches) :=
  ⟨Reload.Spares.refl _ latches, fun _ => rfl⟩

section Rows

variable {course : Course} {latches : Latches} {pencil : Pencil}

theorem Steady.settle (steady : course.Steady latches pencil) :
    course.Steady latches pencil.settle := by
  cases tilted : course.control.reload.hasTilt with
  | false =>
      rw [settle_of_level (steady.level tilted)]
      exact steady
  | true =>
      -- With a tilt nothing is claimed of the horizontal position or the lean.
      have leans : course.control.reload.hasTilt ≠ false := by
        rw [tilted]
        decide
      obtain ⟨_, vpos, sizes, stretch, tilt, palette⟩ := steady.spared
      exact ⟨⟨fun untilted => absurd untilted leans, vpos, sizes, stretch, tilt, palette⟩,
        fun untilted => absurd untilted leans⟩

theorem Steady.advance (steady : course.Steady latches pencil) :
    course.Steady latches (course.advance pencil) := by
  have next : course.control.reload.Spares pencil.latches (course.advance pencil).latches := by
    unfold Course.advance
    cases stretched : course.control.reload.hasStretch with
    | false => exact Reload.Spares.refl _ _
    | true =>
        refine ⟨fun _ => rfl, rfl, ?_, rfl, rfl, rfl⟩
        intro unstretched
        rw [stretched] at unstretched
        cases unstretched
  refine ⟨steady.spared.trans next, ?_⟩
  intro untilted
  show (if course.control.reload.hasTilt then pencil.lean + pencil.latches.tilt
    else pencil.lean) = 0
  rw [untilted]
  exact steady.level untilted

/-- **A row leaves the pencil steady.** -/
theorem Steady.row (pens : List UInt8) (steady : course.Steady latches pencil) :
    course.Steady latches (course.row pens pencil).2 := by
  unfold Course.row
  split
  · exact steady.settle.advance
  · exact steady.advance

end Rows

/-- **A pass spares what the optional fields do not move.** -/
theorem spares_pass (lines : List (List UInt8)) (latches : Latches) :
    course.control.reload.Spares latches (course.passTrace lines latches).pencil.latches :=
  (course.trace_spec (course.Steady latches) (fun _ => True)
    (fun pens _ steady _ => ⟨steady.row pens, trivial⟩)
    lines (course.pencil latches) _ (course.steady_pencil latches)).1.spared

end Course

theorem Job.spares_perform (job : Job) {latches : Latches} {drawing : Drawing}
    (entry : Quadrant × Reading) (spared : job.control.reload.Spares latches drawing.latches) :
    job.control.reload.Spares latches (job.perform drawing entry).latches := by
  obtain ⟨quadrant, reading⟩ := entry
  cases draws : job.draws quadrant drawing.latches with
  | true =>
      rw [perform_of_draws reading draws]
      exact spared.trans ((job.course quadrant).spares_pass reading.lines drawing.latches)
  | false =>
      rw [perform_of_skips reading draws]
      exact spared

/-- **Drawing a sprite spares what the optional fields do not move.** -/
theorem spares_draw (scene : Scene) (descriptor : Descriptor) (latches : Latches)
    (canvas : Canvas) :
    descriptor.control.reload.Spares latches (draw scene descriptor latches canvas).latches := by
  obtain ⟨_, _, drawn, spared, _⟩ := draw_spec scene descriptor latches canvas
    (fun drawing => descriptor.control.reload.Spares latches drawing.latches) (fun _ _ => True)
    (fun drawing entry _ spared => by
      obtain ⟨pass, _, passed, _⟩ :=
        (Job.ofSprite scene descriptor latches).canvas_perform drawing entry
      exact ⟨(Job.ofSprite scene descriptor latches).spares_perform entry spared, pass, passed,
        trivial⟩)
    (Reload.Spares.refl _ latches)
  rw [drawn]
  exact spared

end LynxSuzy.Sprite
