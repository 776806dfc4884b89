import LynxSuzy.Proofs.Passes
import LynxSuzy.Proofs.Ranges

/-!
Contract: stretch, from a sprite's first row to its last.

Owns: the sizes after so many rows, counted through all passes of a sprite, and the
size that each row is drawn with. Rows that are given up past the screen and passes
that are superclipped do not count, as they have no rows.

Does **not** own: what tilt does to the horizontal position (`Proofs.Shear`).
-/

set_option autoImplicit false

namespace LynxSuzy.Sprite

/-- A size that so many rows have stretched, if they stretch it. -/
def grown (grows : Bool) (size stretch : UInt16) (count : Nat) : UInt16 :=
  if grows then size + UInt16.ofNat count * stretch else size

theorem grown_zero (grows : Bool) (size stretch : UInt16) : grown grows size stretch 0 = size := by
  cases grows with
  | false => rfl
  | true =>
      show size + 0 * stretch = size
      rw [UInt16.zero_mul, UInt16.add_zero]

theorem grown_succ (grows : Bool) (size stretch : UInt16) (count : Nat) :
    grown grows size stretch (count + 1)
      = if grows then grown grows size stretch count + stretch
        else grown grows size stretch count := by
  cases grows with
  | false => rfl
  | true =>
      show size + UInt16.ofNat (count + 1) * stretch = size + UInt16.ofNat count * stretch + stretch
      rw [UInt16.ofNat_add, UInt16.ofNat_one, UInt16.add_mul, UInt16.one_mul, UInt16.add_assoc]

/-- Latches after so many rows. What the optional fields do not move is as it was, and
the sizes have been stretched by each row. -/
structure Reload.Grows (reload : Reload) (alsoVertical : Bool) (before : Latches) (count : Nat)
    (after : Latches) : Prop where
  spared : reload.Spares before after
  hsize : after.hsize = grown reload.hasStretch before.hsize before.stretch count
  vsize : after.vsize
    = grown (reload.hasStretch && alsoVertical) before.vsize before.stretch count

theorem Reload.Grows.none (reload : Reload) (alsoVertical : Bool) (latches : Latches) :
    reload.Grows alsoVertical latches 0 latches :=
  ⟨Reload.Spares.refl reload latches, (grown_zero _ _ _).symm, (grown_zero _ _ _).symm⟩

namespace Course

theorem sizes_advance (course : Course) (pencil : Pencil) :
    let after := (course.advance pencil).latches
    let stretches := course.control.reload.hasStretch
    after.hsize
        = (if stretches then pencil.latches.hsize + pencil.latches.stretch
          else pencil.latches.hsize)
      ∧ after.vsize
        = (if stretches && course.scene.verticalStretch then
            pencil.latches.vsize + pencil.latches.stretch
          else pencil.latches.vsize) := by
  unfold advance Latches.stretched
  cases course.control.reload.hasStretch <;> cases course.scene.verticalStretch <;>
    exact ⟨rfl, rfl⟩

theorem sizes_row (course : Course) (pens : List UInt8) (pencil : Pencil) :
    let after := (course.row pens pencil).2.latches
    let stretches := course.control.reload.hasStretch
    after.hsize
        = (if stretches then pencil.latches.hsize + pencil.latches.stretch
          else pencil.latches.hsize)
      ∧ after.vsize
        = (if stretches && course.scene.verticalStretch then
            pencil.latches.vsize + pencil.latches.stretch
          else pencil.latches.vsize) := by
  unfold row
  split
  · -- Settling moves the position alone.
    exact course.sizes_advance pencil.settle
  · exact course.sizes_advance pencil

theorem hsize_row (course : Course) (pens : List UInt8) (pencil : Pencil) :
    (course.row pens pencil).1.hsize = pencil.latches.hsize := by
  unfold row
  split <;> rfl

/-- A pencil on its way through a pass, after so many rows of the sprite. -/
structure Growing (course : Course) (latches : Latches) (count : Nat) (pencil : Pencil) :
    Prop where
  grows : course.control.reload.Grows course.scene.verticalStretch latches count pencil.latches
  level : course.control.reload.hasTilt = false → pencil.lean = 0

variable {course : Course} {latches : Latches} {count : Nat} {pencil : Pencil}

/-- **A row stretches the sizes once.** -/
theorem Growing.row (growing : course.Growing latches count pencil) (pens : List UInt8) :
    course.Growing latches (count + 1) (course.row pens pencil).2 := by
  have steady : course.Steady latches pencil := ⟨growing.grows.spared, growing.level⟩
  obtain ⟨spared, level⟩ := steady.row pens
  obtain ⟨hsize, vsize⟩ := course.sizes_row pens pencil
  refine ⟨⟨spared, ?_, ?_⟩, level⟩
  · rw [hsize, grown_succ, growing.grows.hsize, growing.grows.spared.stretch]
  · rw [vsize, grown_succ, growing.grows.vsize, growing.grows.spared.stretch]

/-- **A pass stretches the sizes once for each of its rows.** -/
theorem grows_pass (course : Course) (lines : List (List UInt8)) {before : Latches}
    (grows : course.control.reload.Grows course.scene.verticalStretch latches count before) :
    let trace := course.passTrace lines before
    course.control.reload.Grows course.scene.verticalStretch latches (count + trace.rows.length)
        trace.pencil.latches
      ∧ ∀ (k : Nat) (row : Row), trace.rows[k]? = some row →
        row.hsize
            = grown course.control.reload.hasStretch latches.hsize latches.stretch (count + k)
          ∧ ∃ line ∈ lines, course.Paints (course.pens latches line) row := by
  intro trace
  obtain ⟨kept, numbered⟩ := course.trace_numbered (course.Growing latches)
    (fun pens index row =>
      row.hsize = grown course.control.reload.hasStretch latches.hsize latches.stretch index
        ∧ course.Paints pens row)
    (fun pens index pencil growing _ =>
      ⟨growing.row pens, (course.hsize_row pens pencil).trans growing.grows.hsize,
        course.paints_row pens pencil⟩)
    lines count (course.pencil before) course.heading.vertical.bias ⟨grows, fun _ => rfl⟩
  refine ⟨kept.grows, ?_⟩
  intro k row found
  obtain ⟨line, among, _, beginning, growing, hsize, paints⟩ := numbered k row found
  refine ⟨hsize, line, among, ?_⟩
  rwa [course.pens_congr growing.grows.spared.palette line] at paints

end Course

/-- A pass whose rows are those of its lines of data: next to each other from the line
of the origin on, none of them past the screen, each painted with the pens of one of
the lines as wide as the row's size makes them. -/
structure Pass.Traced (job : Job) (latches : Latches) (pass : Pass) : Prop where
  superclipped : pass.summary.superclipped = true → pass.rows = []
  lines : pass.rows.map Row.y
    = (job.course pass.summary.quadrant).heading.vertical.run pass.rows.length
        ((job.course pass.summary.quadrant).line latches.vpos)
  onWay : ∀ row ∈ pass.rows,
    (job.course pass.summary.quadrant).heading.vertical.isPast Screen.height row.y = false
  painted : ∀ row ∈ pass.rows, ∃ line ∈ pass.lines,
    (job.course pass.summary.quadrant).Paints
      ((job.course pass.summary.quadrant).pens latches line) row

namespace Job

def Grows (job : Job) : Latches → Nat → Latches → Prop :=
  job.control.reload.Grows job.scene.verticalStretch

def hsizeOf (job : Job) (latches : Latches) (count : Nat) : UInt16 :=
  grown job.control.reload.hasStretch latches.hsize latches.stretch count

variable {job : Job} {latches before after : Latches} {count : Nat}

theorem Makes.grows {pass : Pass} (made : job.Makes before pass after)
    (grows : job.Grows latches count before) :
    job.Grows latches (count + pass.rows.length) after ∧ pass.Traced job latches
      ∧ ∀ (k : Nat) (row : Row), pass.rows[k]? = some row →
        row.hsize = job.hsizeOf latches (count + k) := by
  rcases made.cases with ⟨superclipped, noRows, rfl⟩ | ⟨rendered, rows, rfl⟩
  · have none : ∀ row, row ∉ pass.rows := by
      intro row member
      rw [noRows] at member
      cases member
    refine ⟨?_, ⟨fun _ => noRows, ?_, fun row member => absurd member (none row),
      fun row member => absurd member (none row)⟩, ?_⟩
    · rw [noRows]
      exact grows
    · rw [noRows]
      rfl
    · intro k row found
      exact absurd (List.mem_of_getElem? found) (none row)
  · obtain ⟨kept, numbered⟩ := (job.course pass.summary.quadrant).grows_pass pass.lines grows
    simp only [← rows] at kept numbered
    refine ⟨kept, ⟨?_, ?_, ?_, ?_⟩, fun k row found => (numbered k row found).1⟩
    · intro superclipped
      rw [rendered] at superclipped
      cases superclipped
    · have start : (job.course pass.summary.quadrant).line latches.vpos
          = ((job.course pass.summary.quadrant).pencil before).y := by
        rw [Course.pencil, grows.spared.vpos]
      rw [rows, start]
      exact ((job.course pass.summary.quadrant).y_trace pass.lines _ _).1
    · rw [rows]
      exact (job.course pass.summary.quadrant).not_past_trace pass.lines _ _
    · intro row member
      obtain ⟨k, found⟩ := List.getElem?_of_mem member
      exact (numbered k row found).2

theorem grows_handed {passes : List Pass} (handed : Handed job.Makes before passes after) :
    ∀ {count : Nat}, job.Grows latches count before →
      let rows := passes.flatMap Pass.rows
      job.Grows latches (count + rows.length) after
        ∧ (∀ pass ∈ passes, pass.Traced job latches)
        ∧ ∀ (k : Nat) (row : Row), rows[k]? = some row →
          row.hsize = job.hsizeOf latches (count + k) := by
  induction handed with
  | none =>
      intro count grows
      refine ⟨grows, ?_, ?_⟩
      · intro pass member
        cases member
      · intro k row found
        cases found
  | @more before between after pass passes made _ recurse =>
      intro count grows
      obtain ⟨kept, traced, numbered⟩ := Makes.grows made grows
      obtain ⟨keptAll, tracedAll, numberedAll⟩ := recurse kept
      simp only [List.flatMap_cons]
      refine ⟨?_, ?_, ?_⟩
      · rw [List.length_append, ← Nat.add_assoc]
        exact keptAll
      · intro other member
        rcases List.mem_cons.1 member with rfl | later
        · exact traced
        · exact tracedAll other later
      · exact numbered_append
          (fun index (row : Row) => row.hsize = job.hsizeOf latches index)
          numbered numberedAll

end Job

/-- **How drawing a sprite moves its latches.** Every row that is stepped over, in
whatever pass, stretches the sizes once if the descriptor carries a stretch, the
vertical one only where stretch applies to it; nothing else moves them. The position
down the screen, stretch, tilt and palette stay, and so does the position across it
without a tilt. The row of number k is painted with the size that the k rows before it
have left, and what rows paint is all that the sprite paints. -/
theorem latches_move_with_rows (scene : Scene) (descriptor : Descriptor) (latches : Latches)
    (canvas : Canvas) :
    let job := Job.ofSprite scene descriptor latches
    let drawing := draw scene descriptor latches canvas
    let rows := drawing.passes.flatMap Pass.rows
    descriptor.control.reload.Grows scene.verticalStretch latches rows.length drawing.latches
      ∧ (∀ pass ∈ drawing.passes, pass.Traced job latches)
      ∧ (∀ (k : Nat) (row : Row), rows[k]? = some row →
        row.hsize
          = grown descriptor.control.reload.hasStretch latches.hsize latches.stretch k)
      ∧ ∃ accesses, drawing.canvas
        = (Painted.plotAll job.brush canvas (rows.flatMap Row.placements)).charged accesses := by
  intro job drawing rows
  obtain ⟨grows, traced, numbered⟩ := Job.grows_handed
    (draw_handed scene descriptor latches canvas)
    (Reload.Grows.none descriptor.control.reload scene.verticalStretch latches)
  simp only [Nat.zero_add] at grows numbered
  refine ⟨grows, traced, numbered, ?_⟩
  have all : drawing.placements = rows.flatMap Row.placements := List.flatMap_assoc.symm
  rw [← all]
  exact canvas_draw scene descriptor latches canvas

def stretchedSprite : Descriptor :=
  { sampleSprite with control1 := 0xA8 }

/-- Two rows of the first quadrant come before the first of the second, which is two
stretches wider. The second of the second quadrant lies above the screen. -/
theorem third_row_stretched_twice :
    let latches : Latches := { Latches.initial with vpos := 1, vsize := 0x0200, stretch := 0x10 }
    let drawing := draw ⟨0, 0, 0xC000, false, none⟩ stretchedSprite latches
      ⟨Metered.fresh sampleMemory, Collisions.empty⟩
    drawing.latches.hsize = 0x0130 ∧ drawing.latches.vsize = 0x0200
      ∧ ∃ row, (drawing.passes.flatMap Pass.rows)[2]? = some row ∧ row.hsize = 0x0120 := by
  intro latches drawing
  have passes : drawing.passes = _ := passes_sample rfl (by decide) latches
  have three : (drawing.passes.flatMap Pass.rows).length = 3 := by
    rw [passes]
    decide +kernel
  obtain ⟨grows, _, numbered, _⟩ : _ ∧ _ ∧ (∀ (k : Nat) (row : Row),
      (drawing.passes.flatMap Pass.rows)[k]? = some row → row.hsize = grown true 0x0100 0x10 k)
        ∧ _ :=
    latches_move_with_rows ⟨0, 0, 0xC000, false, none⟩ stretchedSprite latches
      ⟨Metered.fresh sampleMemory, Collisions.empty⟩
  have moved : stretchedSprite.control.reload.Grows false latches 3 drawing.latches := three ▸ grows
  clear_value drawing
  have within : 2 < (drawing.passes.flatMap Pass.rows).length := three ▸ by decide
  have found := List.getElem?_eq_getElem within
  refine ⟨moved.hsize.trans ?_, moved.vsize.trans ?_, _, found, (numbered 2 _ found).trans ?_⟩
  · decide
  · decide
  · decide

end LynxSuzy.Sprite
