import LynxSuzy.Proofs.Layout

/-!
Contract: the count of accesses is only ever added to.

Owns: what happens to a drawing, a visit and a whole run when accesses have been
counted and sprites visited before they begin: the same happens, and the counts
and visits of before are added to what is reported.

Does **not** own: what the accesses come to (`Proofs.Costs`).
-/

set_option autoImplicit false

namespace LynxSuzy

theorem Metered.charged_charged (metered : Metered) (first second : Nat) :
    (metered.charged first).charged second = (metered.charged second).charged first := by
  simp only [charged, Nat.add_right_comm]

theorem Canvas.charged_charged (canvas : Canvas) (first second : Nat) :
    (canvas.charged first).charged second = (canvas.charged second).charged first := by
  simp only [charged, Metered.charged_charged canvas.memory first second]

namespace Sprite

theorem fetch_charged (memory : Metered) (address : UInt16) (latches : Latches) (count : Nat) :
    Descriptor.fetch (memory.charged count) address latches
      = let fetched := Descriptor.fetch memory address latches
        ⟨fetched.descriptor, fetched.latches, fetched.memory.charged count⟩ := by
  cases skips : (Descriptor.ofMemory memory.memory address).control.skip with
  | true =>
      have charged := @fetch_of_skip (memory.charged count) address latches skips
      rw [charged, fetch_of_skip latches skips]
      exact congrArg _ (memory.charged_charged count 5)
  | false =>
      have charged := @fetch_of_draws (memory.charged count) address latches skips
      rw [charged, fetch_of_draws latches skips]
      exact congrArg _ (memory.charged_charged count _)

/-! ## Drawing -/

namespace Progress

def charged (progress : Progress) (count : Nat) : Progress :=
  { progress with painted := progress.painted.charged count }

theorem after_charged (course : Course) (brush : Brush) (progress : Progress) (reading : Reading)
    (count : Nat) :
    (progress.charged count).after course brush reading
      = (progress.after course brush reading).charged count := by
  simp only [after, charged, Painted.addRows_charged, Painted.charged_charged, Nat.add_comm]

theorem addLine_charged (course : Course) (brush : Brush) (progress : Progress)
    (line : List UInt8) (count : Nat) :
    (progress.charged count).addLine course brush line
      = (progress.addLine course brush line).charged count := by
  obtain ⟨painted, pencil, carry, headers, lines, rows⟩ := progress
  simp only [charged, addLine, Painted.addRows_charged]

theorem withLine_charged (course : Course) (brush : Brush) (progress : Progress)
    (line : List UInt8) (count : Nat) :
    (progress.charged count).withLine course brush line
      = (progress.withLine course brush line).charged count := by
  have read : (progress.charged count).withMemory
        ⟨progress.memory, progress.painted.canvas.memory.accesses + count + (line.length + 1)⟩
      = (progress.withMemory
          ⟨progress.memory,
            progress.painted.canvas.memory.accesses + (line.length + 1)⟩).charged count := by
    simp only [withMemory, charged, Painted.charged, Canvas.charged, Metered.charged,
      Nat.add_right_comm]
  show ((progress.charged count).withMemory
      ⟨progress.memory, progress.painted.canvas.memory.accesses + count + (line.length + 1)⟩).addLine
        course brush line = _
  rw [read, addLine_charged]
  rfl

end Progress

/-- **Drawing a quadrant does not look at the accesses counted so far.** -/
theorem drawLines_charged (course : Course) (brush : Brush) (count : Nat) (cursor : Cursor)
    (progress : Progress) :
    drawLines course brush cursor (progress.charged count)
      = let drawn := drawLines course brush cursor progress
        ⟨drawn.progress.charged count, drawn.cursor, drawn.ending⟩ := by
  -- Along the uncharged drawing: both read the same memory at every header.
  induction cursor, progress using drawLines.induct course brush with
  | case1 cursor progress begun head found =>
      rw [drawLines_of_endOfSprite begun found]
      simp only [← Progress.after_charged]
      exact drawLines_of_endOfSprite begun found
  | case2 cursor progress begun head found =>
      rw [drawLines_of_endOfQuadrant begun found]
      simp only [← Progress.after_charged]
      exact drawLines_of_endOfQuadrant begun found
  | case3 cursor progress begun head length found bytes recurse =>
      rw [progress.addLine_of_read course brush cursor.address length] at recurse
      rw [drawLines_of_line begun found, ← recurse, ← Progress.withLine_charged]
      exact drawLines_of_line begun found
  | case4 cursor progress spent =>
      rw [@drawLines_of_limit course brush cursor progress spent]
      simp only [← Progress.after_charged]
      exact drawLines_of_limit spent

def Drawing.charged (drawing : Drawing) (count : Nat) : Drawing :=
  { drawing with canvas := drawing.canvas.charged count }

namespace Job

variable (job : Job)

theorem draw_charged (quadrant : Quadrant) (drawing : Drawing) (count : Nat) :
    job.draw quadrant (drawing.charged count)
      = ((job.draw quadrant drawing).1.charged count, (job.draw quadrant drawing).2) := by
  obtain ⟨canvas, latches, cursor, passes, overrun⟩ := drawing
  have drawn := drawLines_charged (job.course quadrant) job.brush count cursor
    (Progress.start (job.course quadrant) canvas latches)
  have begun : (Progress.start (job.course quadrant) canvas latches).charged count
      = Progress.start (job.course quadrant) (canvas.charged count) latches := rfl
  rw [begun] at drawn
  simp only [draw, Drawing.charged, drawn]
  rfl

theorem skip_charged (quadrant : Quadrant) (drawing : Drawing) (count : Nat) :
    skip quadrant (drawing.charged count)
      = ((skip quadrant drawing).1.charged count, (skip quadrant drawing).2) := by
  rw [skip_eq, skip_eq]
  simp only [skipReading, Drawing.charged, drawing.canvas.charged_charged count]
  rfl

theorem pass_charged (quadrant : Quadrant) (drawing : Drawing) (count : Nat) :
    job.pass quadrant (drawing.charged count)
      = ((job.pass quadrant drawing).1.charged count, (job.pass quadrant drawing).2) := by
  cases draws : job.draws quadrant drawing.latches with
  | true =>
      rw [pass_of_draws draws, ← job.draw_charged]
      exact pass_of_draws draws
  | false =>
      rw [pass_of_skips draws, ← skip_charged]
      exact pass_of_skips draws

theorem run_charged (passes : Nat) (count : Nat) :
    ∀ (quadrant : Quadrant) (drawing : Drawing),
      job.run passes quadrant (drawing.charged count)
        = (job.run passes quadrant drawing).charged count := by
  induction passes with
  | zero => exact fun _ _ => rfl
  | succ passes recurse =>
      intro quadrant drawing
      have charged := job.pass_charged quadrant drawing count
      rcases passed : job.pass quadrant drawing with ⟨after, ending⟩
      rw [passed] at charged
      cases ending with
      | quadrant =>
          rw [run_of_quadrant passes passed, run_of_quadrant passes charged, recurse]
      | sprite => rw [run_of_sprite passes passed, run_of_sprite passes charged]
      | overrun =>
          rw [run_of_overrun passes passed, run_of_overrun passes charged]
          rfl

end Job

/-- **Drawing a sprite does not look at the accesses counted so far.** -/
theorem draw_charged (scene : Scene) (descriptor : Descriptor) (latches : Latches)
    (canvas : Canvas) (count : Nat) :
    draw scene descriptor latches (canvas.charged count)
      = (draw scene descriptor latches canvas).charged count :=
  (Job.ofSprite scene descriptor latches).run_charged 4 count _
    (Drawing.start descriptor.data latches canvas)

end Sprite

namespace Chain

theorem deposit_charged (registers : Registers) (descriptor : Sprite.Descriptor)
    (drawing : Sprite.Drawing) (count : Nat) :
    deposit registers descriptor (drawing.charged count)
      = (deposit registers descriptor drawing).charged count := by
  have slot : ∀ memory : Metered, ∀ address value,
      (memory.charged count).write address value = (memory.write address value).charged count := by
    intro memory address value
    simp only [Metered.write, Metered.charged, Nat.add_right_comm]
  have note : ∀ memory : Metered, ∀ seen address,
      depositEverOn seen address (memory.charged count)
        = (depositEverOn seen address memory).charged count := by
    intro memory seen address
    simp only [depositEverOn, Metered.read_fst, Metered.read_snd, Metered.write, Metered.charged,
      Nat.add_right_comm]
  unfold deposit
  simp only [depositCollision, Sprite.Drawing.charged, Canvas.charged, slot]
  split <;> split <;> simp only [note] <;> rfl

/-! ## Walks behind other walks -/

/-- A walk that takes up where an earlier one has come to: its accesses and visits
are added to those of the earlier one. Whether the engine is shown as running is
up to the earlier walk, for no walk touches it. -/
def Walk.behind (walk earlier : Walk) : Walk where
  registers := { walk.registers with working := earlier.registers.working }
  memory := walk.memory.charged earlier.memory.accesses
  reversedVisits := walk.reversedVisits ++ earlier.reversedVisits

section Behind

variable (walk earlier : Walk) (address : UInt16)

theorem fetched_behind :
    (walk.behind earlier).fetched address
      = let fetched := walk.fetched address
        ⟨fetched.descriptor, fetched.latches,
          fetched.memory.charged earlier.memory.accesses⟩ :=
  Sprite.fetch_charged walk.memory address walk.registers.latches earlier.memory.accesses

theorem drawing_behind :
    (walk.behind earlier).drawing address
      = (walk.drawing address).charged earlier.memory.accesses := by
  unfold Walk.drawing
  rw [fetched_behind, ← Sprite.draw_charged]
  rfl

theorem visit_behind :
    (walk.behind earlier).visit address = (walk.visit address).behind earlier := by
  have read := fetched_behind walk earlier address
  cases skips : (walk.fetched address).descriptor.control.skip with
  | true =>
      rw [visit_of_skip skips, visit_of_skip (by rw [read]; exact skips), read]
      rfl
  | false =>
      rw [visit_of_draw skips, visit_of_draw (by rw [read]; exact skips), read, drawing_behind]
      simp only [Walk.behind, ← deposit_charged]
      rfl

end Behind

/-- **A run goes on behind an earlier walk as it does on its own.** -/
theorem run_behind (earlier : Walk) (budget : Nat) :
    ∀ walk : Walk,
      Walk.run budget (walk.behind earlier)
        = ((Walk.run budget walk).1.behind earlier, (Walk.run budget walk).2) := by
  induction budget with
  | zero =>
      intro walk
      cases link : Link.ofAddress walk.registers.nextDescriptor with
      | idle =>
          rw [run_of_idle 0 link]
          exact run_of_idle 0 link
      | active address =>
          rw [run_of_capped link]
          exact run_of_capped link
  | succ budget recurse =>
      intro walk
      cases link : Link.ofAddress walk.registers.nextDescriptor with
      | idle =>
          rw [run_of_idle _ link]
          exact run_of_idle _ link
      | active address =>
          have visited := visit_behind walk earlier address
          cases stop : (walk.visit address).registers.stopRequested with
          | true =>
              rw [run_of_stop budget link stop,
                @run_of_stop (walk.behind earlier) address budget link (by rw [visited]; exact stop),
                visited]
              rfl
          | false =>
              rw [run_of_visit budget link stop, ← recurse, ← visited]
              exact run_of_visit budget link (by rw [visited]; exact stop)

end Chain

end LynxSuzy
