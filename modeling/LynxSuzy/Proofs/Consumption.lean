import LynxSuzy.Proofs.Script

/-!
Contract: drawing and passing over go through the same data.

Owns: the condition that a sprite's data lies apart from the frame buffer, and
what follows from it: a quadrant ends at the same place and in the same way
whether it is drawn or passed over, so the data of a sprite is dealt out to its
passes by the memory, the data pointer and the first quadrant alone.

Does **not** own: sprites that paint over their own data. What they are drawn
from is what they painted.
-/

set_option autoImplicit false

namespace LynxSuzy.Sprite

/-- So many bytes of data from a cursor on lie outside the frame buffer. -/
def DataApart (base : UInt16) (cursor : Cursor) (count : Nat) : Prop :=
  ∀ address, cursor.covers count address → Screen.inFrame base address = false

/-- A pass that has gone through an entry of a script. Only a drawn pass keeps
the lines. -/
structure Pass.Follows (pass : Pass) (entry : Quadrant × Reading) : Prop where
  quadrant : pass.summary.quadrant = entry.1
  headers : pass.summary.headers = entry.2.headers
  lines : pass.summary.superclipped = false → pass.lines = entry.2.lines

theorem Job.perform_follows (job : Job) (drawing : Drawing) (entry : Quadrant × Reading) :
    ∃ pass, (job.perform drawing entry).reversedPasses = pass :: drawing.reversedPasses
      ∧ pass.Follows entry := by
  obtain ⟨quadrant, reading⟩ := entry
  cases draws : job.draws quadrant drawing.latches with
  | true =>
      rw [perform_of_draws reading draws]
      exact ⟨_, rfl, rfl, rfl, fun _ => rfl⟩
  | false =>
      rw [perform_of_skips reading draws]
      exact ⟨_, rfl, rfl, rfl, fun superclipped => by cases superclipped⟩

/-- **A sprite with its data apart from the frame buffer performs the script
that the memory holds.** -/
theorem draw_eq_performAll {scene : Scene} {descriptor : Descriptor} {canvas : Canvas}
    (latches : Latches)
    (apart : DataApart scene.videoBase (Cursor.start descriptor.data)
      (scriptBytes (readSprite canvas.memory.memory descriptor.data
        descriptor.control.startQuadrant))) :
    draw scene descriptor latches canvas
      = (Job.ofSprite scene descriptor latches).performAll
          (readSprite canvas.memory.memory descriptor.data descriptor.control.startQuadrant)
          (Drawing.start descriptor.data latches canvas) := by
  rw [draw_eq_run]
  exact Job.run_eq_readQuadrants 4 _ (Drawing.start descriptor.data latches canvas)
    (Memory.AgreeOutside.refl _ _) apart

/-- What each entry's pass has to do with the entry holds of the passes and the
script that the memory holds. -/
theorem relates_of_apart {scene : Scene} {descriptor : Descriptor} {latches : Latches}
    {canvas : Canvas}
    (apart : DataApart scene.videoBase (Cursor.start descriptor.data)
      (scriptBytes (readSprite canvas.memory.memory descriptor.data
        descriptor.control.startQuadrant)))
    (Keeps : Drawing → Prop) (Relates : Pass → Quadrant × Reading → Prop)
    (step : ∀ (drawing : Drawing) (entry : Quadrant × Reading), Keeps drawing →
      let after := (Job.ofSprite scene descriptor latches).perform drawing entry
      Keeps after ∧ ∃ pass, after.reversedPasses = pass :: drawing.reversedPasses
        ∧ Relates pass entry)
    (begun : Keeps (Drawing.start descriptor.data latches canvas)) :
    List.Forall₂ Relates (draw scene descriptor latches canvas).passes
      (readSprite canvas.memory.memory descriptor.data descriptor.control.startQuadrant) := by
  obtain ⟨_, passes, all, relates⟩ :=
    (Job.ofSprite scene descriptor latches).foldl_perform Keeps Relates
      (readSprite canvas.memory.memory descriptor.data descriptor.control.startQuadrant)
      (fun drawing entry _ => step drawing entry)
      (Drawing.start descriptor.data latches canvas) begun
  have performed : (draw scene descriptor latches canvas).passes = passes :=
    (congrArg Drawing.passes (draw_eq_performAll latches apart)).trans all
  rwa [performed]

/-- **Skipping and drawing consume the same data.** From the same place a
quadrant leaves the cursor at the same place, has the same number of headers
and ends in the same way whether it is passed over or drawn, as long as the
bytes gone through, the mark at the end included, lie outside the frame buffer.

So the quadrants and lines that the passes of a sprite are given, their number
and whether the data was given up are those of the script in memory. The script
knows the data pointer and the first quadrant and nothing else of the sprite. -/
theorem skip_and_draw_consume_alike {scene : Scene} {descriptor : Descriptor} {canvas : Canvas}
    (latches : Latches)
    (apart : DataApart scene.videoBase (Cursor.start descriptor.data)
      (scriptBytes (readSprite canvas.memory.memory descriptor.data
        descriptor.control.startQuadrant))) :
    (∀ (course : Course) (brush : Brush) (start : Canvas) (pencil : Latches) (cursor : Cursor),
      DataApart brush.videoBase cursor (readLines start.memory.memory cursor).bytes →
      let skipped := skipLines start.memory cursor 0
      let drawn := drawLines course brush cursor (Progress.start course start pencil)
      drawn.cursor = skipped.cursor ∧ drawn.ending = skipped.ending
        ∧ drawn.progress.headers = skipped.headers)
      ∧ let drawing := draw scene descriptor latches canvas
        let script := readSprite canvas.memory.memory descriptor.data
          descriptor.control.startQuadrant
        List.Forall₂ Pass.Follows drawing.passes script
          ∧ drawing.overrun = scriptOverruns script := by
  constructor
  · intro course brush start pencil cursor quadrantApart
    simp only [skipLines_eq]
    have drawn := drawLines_eq_readLines course cursor (Progress.start course start pencil)
      (Memory.AgreeOutside.refl brush.videoBase _) quadrantApart
    rw [drawn]
    refine ⟨rfl, rfl, ?_⟩
    simp only [Progress.after, Progress.start]
    rfl
  · refine ⟨?_, ?_⟩
    · exact relates_of_apart apart (fun _ => True) Pass.Follows
        (fun drawing entry _ => ⟨trivial, Job.perform_follows _ drawing entry⟩) trivial
    · rw [draw_eq_performAll latches apart]
      rfl

/-! ## Two quadrants of a line each -/

/-- A line of two bytes, the end of its quadrant, a line of one byte and the end
of the sprite. -/
def sampleBytes : List UInt8 := [3, 0x12, 0x34, 1, 2, 0x10, 0]

def sampleMemory : Memory := (Memory.filled 0).load 0x3000 sampleBytes

theorem slice_load_sample (memory : Memory) :
    (memory.load 0x3000 sampleBytes).slice 0x3000 7 = sampleBytes := by
  simp [sampleBytes, Memory.slice, Memory.load, Memory.get_set]

theorem slice_sampleMemory : sampleMemory.slice 0x3000 7 = sampleBytes :=
  slice_load_sample _

theorem readSprite_sample {memory : Memory} (holds : memory.slice 0x3000 7 = sampleBytes)
    (first : Quadrant) :
    readSprite memory 0x3000 first
      = [(first, ⟨[[0x12, 0x34]], .quadrant⟩), (first.next, ⟨[[0x10]], .sprite⟩)] := by
  simp only [Memory.slice, sampleBytes, List.cons.injEq] at holds
  obtain ⟨header, byte, byte', mark, nextHeader, nextByte, nextMark, _⟩ := holds
  have firstLine : readLines memory ⟨0x3000, 0⟩ = ⟨[[0x12, 0x34]], .quadrant⟩ := by
    have line : readLines memory ⟨0x3000, 0⟩
        = (readLines memory ⟨0x3003, 3⟩).cons (memory.slice 0x3001 2) :=
      readLines_of_line (by decide) (by rw [header]; rfl)
    have ended : readLines memory ⟨0x3003, 3⟩ = ⟨[], .quadrant⟩ :=
      readLines_of_endOfQuadrant (by decide) (mark ▸ rfl)
    have bytes : memory.slice 0x3001 2 = [0x12, 0x34] :=
      congrArg₂ (fun first second => [first, second]) byte byte'
    rw [line, ended, bytes]
    rfl
  have secondLine : readLines memory ⟨0x3004, 4⟩ = ⟨[[0x10]], .sprite⟩ := by
    have line : readLines memory ⟨0x3004, 4⟩
        = (readLines memory ⟨0x3006, 6⟩).cons (memory.slice 0x3005 1) :=
      readLines_of_line (by decide) (nextHeader ▸ rfl)
    have ended : readLines memory ⟨0x3006, 6⟩ = ⟨[], .sprite⟩ :=
      readLines_of_endOfSprite (by decide) (nextMark ▸ rfl)
    have bytes : memory.slice 0x3005 1 = [0x10] := congrArg (fun first => [first]) nextByte
    rw [line, ended, bytes]
    rfl
  have gone : (Reading.mk [[0x12, 0x34]] .quadrant).cursorFrom ⟨0x3000, 0⟩ = ⟨0x3004, 4⟩ := by
    decide
  simp only [readSprite, readQuadrants, Cursor.start, firstLine, gone, secondLine, if_true,
    reduceCtorEq, if_false]

theorem sample_apart {memory : Memory} (holds : memory.slice 0x3000 7 = sampleBytes)
    (first : Quadrant) :
    DataApart 0xC000 (Cursor.start 0x3000) (scriptBytes (readSprite memory 0x3000 first)) := by
  have outside : ∀ offset < 7, Screen.inFrame 0xC000 (0x3000 + UInt16.ofNat offset) = false := by
    decide
  rw [readSprite_sample holds]
  rintro address ⟨offset, inside, rfl⟩
  exact outside offset inside

/-- A sprite of literal lines with four bits to a pixel, drawn one to one. -/
def sampleSprite : Descriptor := ⟨0x2000, 0xC4, 0x88, 0, 0, 0x3000⟩

/-- From the origin of the screen both quadrants are drawn as memory has them. -/
theorem sample_consumed_alike :
    let drawing := draw ⟨0, 0, 0xC000, false, none⟩ sampleSprite Latches.initial
      ⟨Metered.fresh sampleMemory, Collisions.empty⟩
    DataApart 0xC000 (Cursor.start 0x3000)
        (scriptBytes (readSprite sampleMemory 0x3000 .downRight))
      ∧ List.Forall₂ Pass.Follows drawing.passes
          [(.downRight, ⟨[[0x12, 0x34]], .quadrant⟩), (.upRight, ⟨[[0x10]], .sprite⟩)]
      ∧ drawing.overrun = false := by
  have first : sampleSprite.control.startQuadrant = .downRight := by decide
  have script := readSprite_sample slice_sampleMemory .downRight
  have apart := sample_apart slice_sampleMemory .downRight
  obtain ⟨_, follows, overrun⟩ := @skip_and_draw_consume_alike ⟨0, 0, 0xC000, false, none⟩
    sampleSprite ⟨Metered.fresh sampleMemory, Collisions.empty⟩ Latches.initial
    (by rw [first]; exact apart)
  refine ⟨apart, ?_, ?_⟩
  · rw [first] at follows
    exact script ▸ follows
  · rw [overrun, first]
    exact (congrArg scriptOverruns script).trans (by decide)

end LynxSuzy.Sprite
