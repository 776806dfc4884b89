import LynxSuzy.Proofs.Trace
import LynxSuzy.Sprite.Drawing
import Mathlib.Data.List.Forall2

/-!
Contract: a sprite's quadrants in the order in which its data gives them.

Owns: the script of a sprite, which is the row of its readings with the
quadrants they belong to, the budget that a script keeps to, and the drawing of
a sprite as the performance of its script. Only the performance knows what is
drawn and what is passed over.

Does **not** own: what a performance costs (`Proofs.Bounds`).
-/

set_option autoImplicit false

namespace LynxSuzy.Sprite

def scriptBytes (script : List (Quadrant × Reading)) : Nat :=
  (script.map fun entry => entry.2.bytes).sum

def scriptOverruns (script : List (Quadrant × Reading)) : Bool :=
  script.any fun entry => entry.2.ending = .overrun

/-- The scripts that a sprite can have from a quadrant and a place in its data
on: at most so many readings, each where the one before it left the cursor, and
another only behind an end of quadrant. -/
inductive IsScript : Nat → Quadrant → Cursor → List (Quadrant × Reading) → Prop where
  | none (quadrant : Quadrant) (cursor : Cursor) : IsScript 0 quadrant cursor []
  | last {count : Nat} {quadrant : Quadrant} {cursor : Cursor} {reading : Reading}
      (within : reading.WithinBudget cursor) (ended : reading.ending ≠ .quadrant) :
      IsScript (count + 1) quadrant cursor [(quadrant, reading)]
  | more {count : Nat} {quadrant : Quadrant} {cursor : Cursor} {reading : Reading}
      {rest : List (Quadrant × Reading)} (within : reading.WithinBudget cursor)
      (goesOn : reading.ending = .quadrant)
      (continued : IsScript count quadrant.next (reading.cursorFrom cursor) rest) :
      IsScript (count + 1) quadrant cursor ((quadrant, reading) :: rest)

namespace IsScript

variable {count : Nat} {quadrant : Quadrant} {cursor : Cursor} {script : List (Quadrant × Reading)}

theorem length_le (valid : IsScript count quadrant cursor script) : script.length ≤ count := by
  induction valid with
  | none => exact Nat.le_refl _
  | last => simp
  | more within goesOn continued recurse =>
      rw [List.length_cons]
      exact Nat.succ_le_succ recurse

/-- **A script goes at most 254 bytes beyond the budget.** -/
theorem bytes_le (valid : IsScript count quadrant cursor script)
    (begun : cursor.consumed ≤ Cursor.limit) :
    cursor.consumed + scriptBytes script ≤ Cursor.limit + 254 := by
  induction valid with
  | none => exact Nat.le_trans begun (Nat.le_add_right _ _)
  | last within ended =>
      have bound := within.bytes_le begun
      simpa [scriptBytes] using bound
  | @more count quadrant cursor reading rest within goesOn continued recurse =>
      have bound := recurse (within.consumed_le goesOn)
      rw [Reading.cursorFrom_of_quadrant goesOn, Cursor.consumed_advance] at bound
      simp only [scriptBytes, List.map_cons, List.sum_cons] at bound ⊢
      omega

theorem lineLength (valid : IsScript count quadrant cursor script) :
    ∀ entry ∈ script, ∀ line ∈ entry.2.lines, line.length ≤ 254 := by
  induction valid with
  | none => simp
  | last within ended =>
      intro entry member
      rw [List.mem_singleton] at member
      subst member
      exact within.lineLength
  | more within goesOn continued recurse =>
      intro entry member
      rcases List.mem_cons.1 member with rfl | later
      · exact within.lineLength
      · exact recurse entry later

end IsScript

/-! ## The script in a memory -/

def readQuadrants (memory : Memory) : Nat → Quadrant → Cursor → List (Quadrant × Reading)
  | 0, _, _ => []
  | count + 1, quadrant, cursor =>
      let reading := readLines memory cursor
      (quadrant, reading) ::
        if reading.ending = .quadrant then
          readQuadrants memory count quadrant.next (reading.cursorFrom cursor)
        else []

/-- The script that a memory holds for a sprite: at most four quadrants, from
the given one on, with the data at an address. -/
def readSprite (memory : Memory) (data : UInt16) (first : Quadrant) : List (Quadrant × Reading) :=
  readQuadrants memory 4 first (Cursor.start data)

/-- The bytes that a script goes through settle it. -/
theorem readQuadrants_congr {first second : Memory} (count : Nat) :
    ∀ (quadrant : Quadrant) (cursor : Cursor),
      (∀ address, cursor.covers (scriptBytes (readQuadrants first count quadrant cursor)) address →
        second.get address = first.get address) →
      readQuadrants second count quadrant cursor = readQuadrants first count quadrant cursor := by
  induction count with
  | zero => exact fun _ _ _ => rfl
  | succ count recurse =>
      intro quadrant cursor agree
      rw [readQuadrants] at agree ⊢
      have near : readLines second cursor = readLines first cursor := by
        apply readLines_congr cursor
        intro address covered
        exact agree address (Cursor.covers_mono (by simp [scriptBytes]) covered)
      rw [near, readQuadrants]
      by_cases goesOn : (readLines first cursor).ending = .quadrant
      · rw [if_pos goesOn] at agree ⊢
        rw [recurse quadrant.next ((readLines first cursor).cursorFrom cursor), if_pos goesOn]
        intro address covered
        rw [Reading.cursorFrom_of_quadrant goesOn] at agree covered
        exact agree address (Cursor.covers_of_advance covered)
      · rw [if_neg goesOn, if_neg goesOn]

/-! ## Performing a script -/

namespace Job

def drawReading (job : Job) (quadrant : Quadrant) (reading : Reading) (drawing : Drawing) :
    Drawing :=
  let trace := (job.course quadrant).passTrace reading.lines drawing.latches
  let painted := (Painted.mk drawing.canvas 0 0).addRows job.brush trace.rows
  { canvas := painted.canvas.charged reading.bytes
    latches := trace.pencil.latches
    cursor := reading.cursorFrom drawing.cursor
    reversedPasses :=
      { summary :=
          { quadrant := quadrant
            superclipped := false
            headers := reading.headers
            dataBytes := (reading.lines.map List.length).sum
            drawn := painted.drawn
            blocked := painted.blocked }
        lines := reading.lines
        rows := trace.rows } :: drawing.reversedPasses
    overrun := drawing.overrun }

def skipReading (quadrant : Quadrant) (reading : Reading) (drawing : Drawing) : Drawing where
  canvas := drawing.canvas.charged reading.headers
  latches := drawing.latches
  cursor := reading.cursorFrom drawing.cursor
  reversedPasses :=
    ⟨⟨quadrant, true, reading.headers, 0, 0, 0⟩, [], []⟩ :: drawing.reversedPasses
  overrun := drawing.overrun

def perform (job : Job) (drawing : Drawing) (entry : Quadrant × Reading) : Drawing :=
  if job.draws entry.1 drawing.latches then job.drawReading entry.1 entry.2 drawing
  else skipReading entry.1 entry.2 drawing

def performAll (job : Job) (script : List (Quadrant × Reading)) (drawing : Drawing) : Drawing :=
  { script.foldl job.perform drawing with
    overrun := drawing.overrun || scriptOverruns script }

section Choice

variable {job : Job} {quadrant : Quadrant} {drawing : Drawing}

theorem perform_of_draws (reading : Reading)
    (draws : job.draws quadrant drawing.latches = true) :
    job.perform drawing (quadrant, reading) = job.drawReading quadrant reading drawing := by
  rw [perform, if_pos draws]

theorem perform_of_skips (reading : Reading)
    (skips : job.draws quadrant drawing.latches = false) :
    job.perform drawing (quadrant, reading) = skipReading quadrant reading drawing := by
  rw [perform, if_neg (Bool.eq_false_iff.1 skips)]

theorem pass_of_draws (draws : job.draws quadrant drawing.latches = true) :
    job.pass quadrant drawing = job.draw quadrant drawing := by
  rw [pass, if_pos draws]

theorem pass_of_skips (skips : job.draws quadrant drawing.latches = false) :
    job.pass quadrant drawing = skip quadrant drawing := by
  rw [pass, if_neg (Bool.eq_false_iff.1 skips)]

end Choice

@[simp] theorem cursor_perform (job : Job) (drawing : Drawing) (entry : Quadrant × Reading) :
    (job.perform drawing entry).cursor = entry.2.cursorFrom drawing.cursor := by
  unfold perform
  split <;> rfl

@[simp] theorem overrun_perform (job : Job) (drawing : Drawing) (entry : Quadrant × Reading) :
    (job.perform drawing entry).overrun = drawing.overrun := by
  unfold perform
  split <;> rfl

@[simp] theorem performAll_nil (job : Job) (drawing : Drawing) :
    job.performAll [] drawing = drawing := by
  simp [performAll, scriptOverruns]

theorem performAll_cons (job : Job) (entry : Quadrant × Reading)
    (rest : List (Quadrant × Reading)) (drawing : Drawing) (goesOn : entry.2.ending ≠ .overrun) :
    job.performAll (entry :: rest) drawing = job.performAll rest (job.perform drawing entry) := by
  simp [performAll, scriptOverruns, goesOn]

theorem performAll_overrun (job : Job) (entry : Quadrant × Reading) (drawing : Drawing)
    (overrun : entry.2.ending = .overrun) :
    job.performAll [entry] drawing = { job.perform drawing entry with overrun := true } := by
  simp [performAll, scriptOverruns, overrun]

/-- **What a performance keeps from entry to entry holds of it all**, and what
each entry's pass has to do with the entry holds of all passes. -/
theorem foldl_perform (job : Job) (Keeps : Drawing → Prop)
    (Relates : Pass → Quadrant × Reading → Prop) (script : List (Quadrant × Reading))
    (step : ∀ drawing : Drawing, ∀ entry ∈ script, Keeps drawing →
      Keeps (job.perform drawing entry)
        ∧ ∃ pass, (job.perform drawing entry).reversedPasses = pass :: drawing.reversedPasses
          ∧ Relates pass entry) :
    ∀ drawing : Drawing, Keeps drawing →
      Keeps (script.foldl job.perform drawing)
        ∧ ∃ passes, (script.foldl job.perform drawing).passes = drawing.passes ++ passes
          ∧ List.Forall₂ Relates passes script := by
  induction script with
  | nil =>
      intro drawing keeps
      exact ⟨keeps, [], by simp, List.Forall₂.nil⟩
  | cons entry rest recurse =>
      intro drawing keeps
      obtain ⟨kept, pass, passed, relates⟩ := step drawing entry List.mem_cons_self keeps
      obtain ⟨keptAll, passes, all, relatesAll⟩ := recurse
        (fun drawing entry member => step drawing entry (List.mem_cons_of_mem _ member))
        (job.perform drawing entry) kept
      refine ⟨keptAll, pass :: passes, ?_, List.Forall₂.cons relates relatesAll⟩
      rw [List.foldl_cons, all]
      simp only [Drawing.passes, passed, List.reverse_cons, List.append_assoc,
        List.singleton_append]

/-- **A performance changes memory in the frame buffer alone.** -/
theorem perform_agreeOutside (job : Job) (drawing : Drawing) (entry : Quadrant × Reading) :
    Memory.AgreeOutside job.scene.videoBase (job.perform drawing entry).canvas.memory.memory
      drawing.canvas.memory.memory := by
  obtain ⟨quadrant, reading⟩ := entry
  cases draws : job.draws quadrant drawing.latches with
  | true =>
      rw [perform_of_draws reading draws]
      simp only [drawReading, Painted.addRows_eq]
      exact (Painted.addAll_spec job.brush _ ⟨drawing.canvas, 0, 0⟩).2.2
  | false =>
      rw [perform_of_skips reading draws]
      exact Memory.AgreeOutside.refl _ _

/-- The pass that a progress becomes, when it was begun and a reading drawn. -/
theorem draw_of_drawLines {job : Job} {quadrant : Quadrant} {drawing : Drawing} {reading : Reading}
    (drawn : drawLines (job.course quadrant) job.brush drawing.cursor
        (Progress.start (job.course quadrant) drawing.canvas drawing.latches)
      = ⟨(Progress.start (job.course quadrant) drawing.canvas drawing.latches).after
            (job.course quadrant) job.brush reading,
          reading.cursorFrom drawing.cursor, reading.ending⟩) :
    job.draw quadrant drawing = (job.drawReading quadrant reading drawing, reading.ending) := by
  obtain ⟨canvas, latches, cursor, passes, overrun⟩ := drawing
  simp only [draw, drawn, drawReading]
  simp only [Progress.after, Progress.start, Progress.toPass, Course.passTrace, Painted.charged,
    List.append_nil, List.reverse_reverse, List.map_reverse, total_eq_sum, List.sum_reverse,
    Nat.zero_add]

theorem skip_eq (quadrant : Quadrant) (drawing : Drawing) :
    skip quadrant drawing
      = let reading := readLines drawing.canvas.memory.memory drawing.cursor
        (skipReading quadrant reading drawing, reading.ending) := by
  obtain ⟨canvas, latches, cursor, passes, overrun⟩ := drawing
  simp only [skip, skipLines_eq, skipReading, Nat.zero_add, Canvas.charged, Metered.charged]

theorem pass_eq (job : Job) (quadrant : Quadrant) (drawing : Drawing) :
    ∃ reading : Reading, reading.WithinBudget drawing.cursor
      ∧ job.pass quadrant drawing = (job.perform drawing (quadrant, reading), reading.ending) := by
  cases draws : job.draws quadrant drawing.latches with
  | true =>
      obtain ⟨reading, within, drawn⟩ := drawLines_eq (job.course quadrant) job.brush
        drawing.cursor (Progress.start (job.course quadrant) drawing.canvas drawing.latches)
      refine ⟨reading, within, ?_⟩
      rw [pass_of_draws draws, perform_of_draws reading draws]
      exact draw_of_drawLines drawn
  | false =>
      refine ⟨_, readLines_withinBudget drawing.canvas.memory.memory drawing.cursor, ?_⟩
      rw [pass_of_skips draws, perform_of_skips _ draws]
      exact skip_eq quadrant drawing

section Steps

variable {job : Job} {quadrant : Quadrant} {drawing after : Drawing}

theorem run_of_quadrant (count : Nat) (passed : job.pass quadrant drawing = (after, .quadrant)) :
    job.run (count + 1) quadrant drawing = job.run count quadrant.next after := by
  rw [run, passed]

theorem run_of_sprite (count : Nat) (passed : job.pass quadrant drawing = (after, .sprite)) :
    job.run (count + 1) quadrant drawing = after := by
  rw [run, passed]

theorem run_of_overrun (count : Nat) (passed : job.pass quadrant drawing = (after, .overrun)) :
    job.run (count + 1) quadrant drawing = { after with overrun := true } := by
  rw [run, passed]

end Steps

/-- **Drawing a sprite performs a script.** -/
theorem run_eq (job : Job) (count : Nat) :
    ∀ (quadrant : Quadrant) (drawing : Drawing),
      ∃ script : List (Quadrant × Reading), IsScript count quadrant drawing.cursor script
        ∧ job.run count quadrant drawing = job.performAll script drawing := by
  induction count with
  | zero =>
      intro quadrant drawing
      exact ⟨[], IsScript.none quadrant drawing.cursor, (job.performAll_nil drawing).symm⟩
  | succ count recurse =>
      intro quadrant drawing
      obtain ⟨reading, within, passed⟩ := job.pass_eq quadrant drawing
      cases ending : reading.ending with
      | quadrant =>
          obtain ⟨rest, valid, performed⟩ :=
            recurse quadrant.next (job.perform drawing (quadrant, reading))
          rw [cursor_perform] at valid
          refine ⟨(quadrant, reading) :: rest, IsScript.more within ending valid, ?_⟩
          rw [run_of_quadrant count (by rw [passed, ending]), performed,
            performAll_cons _ _ _ _ (by simp [ending])]
      | sprite =>
          refine ⟨[(quadrant, reading)], IsScript.last within (by simp [ending]), ?_⟩
          rw [run_of_sprite count (by rw [passed, ending]),
            performAll_cons _ _ _ _ (by simp [ending]), performAll_nil]
      | overrun =>
          refine ⟨[(quadrant, reading)], IsScript.last within (by simp [ending]), ?_⟩
          rw [run_of_overrun count (by rw [passed, ending]), performAll_overrun _ _ _ ending]

/-- One pass over data outside the frame buffer performs what the memory said
before anything was painted. -/
theorem pass_eq_readLines {job : Job} {origin : Memory} (quadrant : Quadrant) (drawing : Drawing)
    (agree : Memory.AgreeOutside job.scene.videoBase drawing.canvas.memory.memory origin)
    (apart : ∀ address, drawing.cursor.covers (readLines origin drawing.cursor).bytes address →
      Screen.inFrame job.scene.videoBase address = false) :
    job.pass quadrant drawing
      = (job.perform drawing (quadrant, readLines origin drawing.cursor),
          (readLines origin drawing.cursor).ending) := by
  cases draws : job.draws quadrant drawing.latches with
  | true =>
      rw [pass_of_draws draws, perform_of_draws _ draws]
      apply draw_of_drawLines
      exact drawLines_eq_readLines _ _ _ agree apart
  | false =>
      have same : readLines drawing.canvas.memory.memory drawing.cursor
          = readLines origin drawing.cursor :=
        readLines_congr _ fun address covered => agree address (apart address covered)
      rw [pass_of_skips draws, perform_of_skips _ draws, skip_eq, same]

/-- **A sprite whose data lies outside the frame buffer performs the script that
the memory held before it was drawn.** -/
theorem run_eq_readQuadrants {job : Job} {origin : Memory} (count : Nat) :
    ∀ (quadrant : Quadrant) (drawing : Drawing),
      Memory.AgreeOutside job.scene.videoBase drawing.canvas.memory.memory origin →
      (∀ address,
        drawing.cursor.covers (scriptBytes (readQuadrants origin count quadrant drawing.cursor))
          address → Screen.inFrame job.scene.videoBase address = false) →
      job.run count quadrant drawing
        = job.performAll (readQuadrants origin count quadrant drawing.cursor) drawing := by
  induction count with
  | zero =>
      intro quadrant drawing agree apart
      rw [run, readQuadrants, performAll_nil]
  | succ count recurse =>
      intro quadrant drawing agree apart
      rw [readQuadrants] at apart ⊢
      have near := fun address (covered :
          drawing.cursor.covers (readLines origin drawing.cursor).bytes address) =>
        apart address (Cursor.covers_mono (by simp [scriptBytes]) covered)
      have passed := pass_eq_readLines quadrant drawing agree near
      cases ending : (readLines origin drawing.cursor).ending with
      | quadrant =>
          have agreeAfter := (job.perform_agreeOutside drawing
            (quadrant, readLines origin drawing.cursor)).trans agree
          rw [if_pos ending] at apart
          rw [if_pos rfl, run_of_quadrant count (by rw [passed, ending]),
            performAll_cons _ _ _ _ (by simp [ending])]
          rw [← cursor_perform job drawing (quadrant, readLines origin drawing.cursor)] at apart ⊢
          apply recurse quadrant.next _ agreeAfter
          intro address covered
          apply apart address
          -- The next quadrant's data begins where all bytes of this one end.
          rw [cursor_perform, Reading.cursorFrom_of_quadrant ending] at covered ⊢
          exact Cursor.covers_of_advance covered
      | sprite =>
          rw [run_of_sprite count (by rw [passed, ending]), if_neg (by decide),
            performAll_cons _ _ _ _ (by simp [ending]), performAll_nil]
      | overrun =>
          rw [run_of_overrun count (by rw [passed, ending]), if_neg (by decide),
            performAll_overrun _ _ _ ending]

end Job

/-! ## Whole sprites -/

def Job.ofSprite (scene : Scene) (descriptor : Descriptor) (latches : Latches) : Job :=
  ⟨scene, descriptor.control, !scene.shows latches.hpos latches.vpos⟩

def Drawing.start (data : UInt16) (latches : Latches) (canvas : Canvas) : Drawing :=
  ⟨canvas, latches, Cursor.start data, [], false⟩

theorem draw_eq_run (scene : Scene) (descriptor : Descriptor) (latches : Latches)
    (canvas : Canvas) :
    draw scene descriptor latches canvas
      = (Job.ofSprite scene descriptor latches).run 4 descriptor.control.startQuadrant
          (Drawing.start descriptor.data latches canvas) := rfl

/-- **What each entry keeps holds when a sprite has been drawn**, and what each
entry's pass has to do with the entry holds of all passes. The script need not
be the one that memory held before, as the sprite can have painted over it. -/
theorem draw_spec (scene : Scene) (descriptor : Descriptor) (latches : Latches)
    (canvas : Canvas) (Keeps : Drawing → Prop) (Relates : Pass → Quadrant × Reading → Prop)
    (step : ∀ (drawing : Drawing) (entry : Quadrant × Reading),
      (∀ line ∈ entry.2.lines, line.length ≤ 254) → Keeps drawing →
      let after := (Job.ofSprite scene descriptor latches).perform drawing entry
      Keeps after ∧ ∃ pass, after.reversedPasses = pass :: drawing.reversedPasses
        ∧ Relates pass entry)
    (begun : Keeps (Drawing.start descriptor.data latches canvas)) :
    ∃ script,
      IsScript 4 descriptor.control.startQuadrant (Cursor.start descriptor.data) script
      ∧ let last := script.foldl (Job.ofSprite scene descriptor latches).perform
          (Drawing.start descriptor.data latches canvas)
        draw scene descriptor latches canvas = { last with overrun := scriptOverruns script }
          ∧ Keeps last ∧ List.Forall₂ Relates last.passes script := by
  obtain ⟨script, valid, performed⟩ := (Job.ofSprite scene descriptor latches).run_eq 4
    descriptor.control.startQuadrant (Drawing.start descriptor.data latches canvas)
  obtain ⟨kept, passes, all, relates⟩ := (Job.ofSprite scene descriptor latches).foldl_perform
    Keeps Relates script
    (fun drawing entry member => step drawing entry (valid.lineLength entry member))
    (Drawing.start descriptor.data latches canvas) begun
  refine ⟨script, valid, performed, kept, ?_⟩
  have same : (script.foldl (Job.ofSprite scene descriptor latches).perform
      (Drawing.start descriptor.data latches canvas)).passes = passes := all
  rwa [same]

/-- Every pass goes back to an entry of the script. -/
theorem exists_entry {Relates : Pass → Quadrant × Reading → Prop} {passes : List Pass}
    {script : List (Quadrant × Reading)} (relates : List.Forall₂ Relates passes script)
    {pass : Pass} (member : pass ∈ passes) : ∃ entry ∈ script, Relates pass entry := by
  induction relates with
  | nil => cases member
  | cons first _ recurse =>
      rcases List.mem_cons.1 member with rfl | later
      · exact ⟨_, List.mem_cons_self, first⟩
      · obtain ⟨entry, among, related⟩ := recurse later
        exact ⟨entry, List.mem_cons_of_mem _ among, related⟩

/-! ## What is painted -/

/-- The pixels of a pass in the order in which they are painted. -/
def Pass.placements (pass : Pass) : List Placement :=
  pass.rows.flatMap Row.placements

/-- A sprite was on the screen if one of its passes painted there. -/
theorem Drawing.everOnScreen_iff (drawing : Drawing) :
    drawing.summary.everOnScreen = true
      ↔ ∃ pass ∈ drawing.passes, ∃ placement, placement ∈ pass.placements := by
  simp only [summary, passes, Pass.placements, List.any_eq_true, List.mem_reverse,
    Bool.not_eq_true', List.isEmpty_eq_false_iff_exists_mem, List.mem_flatMap]
  constructor
  · rintro ⟨pass, among, row, inPass, placement, inRow⟩
    exact ⟨pass, among, placement, row, inPass, inRow⟩
  · rintro ⟨pass, among, placement, row, inPass, inRow⟩
    exact ⟨pass, among, row, inPass, placement, inRow⟩

theorem Job.canvas_perform (job : Job) (drawing : Drawing) (entry : Quadrant × Reading) :
    ∃ pass count, (job.perform drawing entry).reversedPasses = pass :: drawing.reversedPasses
      ∧ (job.perform drawing entry).canvas
        = (Painted.plotAll job.brush drawing.canvas pass.placements).charged count := by
  obtain ⟨quadrant, reading⟩ := entry
  cases draws : job.draws quadrant drawing.latches with
  | true =>
      rw [perform_of_draws reading draws]
      refine ⟨_, reading.bytes, rfl, ?_⟩
      simp only [drawReading, Painted.addRows_eq, Painted.canvas_addAll]
      rfl
  | false =>
      rw [perform_of_skips reading draws]
      exact ⟨_, reading.headers, rfl, rfl⟩

/-- **Drawing a sprite plots the pixels of its passes in order**, and whatever
else it does to the canvas is accesses. -/
theorem canvas_draw (scene : Scene) (descriptor : Descriptor) (latches : Latches)
    (canvas : Canvas) :
    let drawing := draw scene descriptor latches canvas
    ∃ count, drawing.canvas
      = (Painted.plotAll (Job.ofSprite scene descriptor latches).brush canvas
          drawing.placements).charged count := by
  obtain ⟨_, _, drawn, painted, _⟩ := draw_spec scene descriptor latches canvas
    (fun drawing => ∃ count, drawing.canvas
      = (Painted.plotAll (Job.ofSprite scene descriptor latches).brush canvas
          drawing.placements).charged count)
    (fun _ _ => True)
    (fun drawing entry _ ⟨before, painted⟩ => by
      obtain ⟨pass, count, passed, further⟩ :=
        (Job.ofSprite scene descriptor latches).canvas_perform drawing entry
      have all : ((Job.ofSprite scene descriptor latches).perform drawing entry).placements
          = drawing.placements ++ pass.placements := by
        simp only [Drawing.placements, Drawing.passes, passed, List.reverse_cons,
          List.flatMap_append, List.flatMap_cons, List.flatMap_nil, List.append_nil,
          Pass.placements]
      refine ⟨⟨before + count, ?_⟩, pass, passed, trivial⟩
      rw [further, painted, all, Painted.plotAll_append, Painted.plotAll_charged]
      simp only [Canvas.charged, Metered.charged, Nat.add_assoc])
    ⟨0, rfl⟩
  rw [drawn]
  exact painted

end LynxSuzy.Sprite
