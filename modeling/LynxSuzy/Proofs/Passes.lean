import LynxSuzy.Proofs.Latches

/-!
Contract: the passes of a sprite in a row, and the rows of a pass by their number.

Owns: what a single pass makes of the latches it begins with; the passes of a
sprite as a chain, in which each begins with the latches that the one before it
left; and induction over the rows of a pass that knows how many have been stepped
over. Whatever a sprite paints over, it is drawn in such a chain.

Does **not** own: what stretch and tilt do from row to row (`Proofs.Growth`,
`Proofs.Shear`).
-/

set_option autoImplicit false

namespace LynxSuzy.Sprite

/-! ## Rows by number -/

/-- What holds of the entries of two lists by their number, where the second goes on
counting behind the first, holds of both in a row. -/
theorem numbered_append {Entry : Type} (Holds : Nat → Entry → Prop) {first second : List Entry}
    {count : Nat}
    (before : ∀ (k : Nat) (entry : Entry), first[k]? = some entry → Holds (count + k) entry)
    (behind : ∀ (k : Nat) (entry : Entry), second[k]? = some entry →
      Holds (count + first.length + k) entry)
    (k : Nat) (entry : Entry) (found : (first ++ second)[k]? = some entry) :
    Holds (count + k) entry := by
  rw [List.getElem?_append] at found
  split at found
  · exact before k entry found
  · rename_i beyond
    have holds := behind _ entry found
    rwa [Nat.add_assoc, Nat.add_sub_of_le (Nat.le_of_not_lt beyond)] at holds

namespace Course

section Numbered

variable (course : Course) (Keeps : Nat → Pencil → Prop) (Holds : List UInt8 → Nat → Row → Prop)

theorem rows_numbered (pens : List UInt8)
    (step : ∀ (count : Nat) (pencil : Pencil), Keeps count pencil →
      course.heading.vertical.isPast Screen.height pencil.y = false →
      Keeps (count + 1) (course.row pens pencil).2 ∧ Holds pens count (course.row pens pencil).1)
    (height : Nat) :
    ∀ (count : Nat) (pencil : Pencil), Keeps count pencil →
      let drawn := course.rows pens height pencil
      Keeps (count + drawn.1.length) drawn.2
        ∧ ∀ (k : Nat) (row : Row), drawn.1[k]? = some row → Holds pens (count + k) row := by
  induction height with
  | zero =>
      intro count pencil keeps
      exact ⟨keeps, fun _ _ found => by cases found⟩
  | succ height recurse =>
      intro count pencil keeps
      rw [rows]
      split
      · exact ⟨keeps, fun _ _ found => by cases found⟩
      · rename_i onWay
        obtain ⟨kept, holds⟩ := step count pencil keeps (Bool.eq_false_iff.2 onWay)
        obtain ⟨keptAll, holdsAll⟩ := recurse (count + 1) (course.row pens pencil).2 kept
        constructor
        · rw [List.length_cons, Nat.add_comm _ 1, ← Nat.add_assoc]
          exact keptAll
        · intro k row found
          cases k with
          | zero =>
              rw [List.getElem?_cons_zero] at found
              exact Option.some.inj found ▸ holds
          | succ k =>
              rw [List.getElem?_cons_succ] at found
              rw [Nat.add_comm k 1, ← Nat.add_assoc]
              exact holdsAll k row found

/-- **What each row keeps holds at the end of a pass**, and what holds of each row by
its number holds of all of them. A row is drawn with the pens of some line of data,
which were selected when that line began. -/
theorem trace_numbered
    (step : ∀ (pens : List UInt8) (count : Nat) (pencil : Pencil), Keeps count pencil →
      course.heading.vertical.isPast Screen.height pencil.y = false →
      Keeps (count + 1) (course.row pens pencil).2 ∧ Holds pens count (course.row pens pencil).1)
    (lines : List (List UInt8)) :
    ∀ (count : Nat) (pencil : Pencil) (carry : UInt16), Keeps count pencil →
      let trace := course.trace lines pencil carry
      Keeps (count + trace.rows.length) trace.pencil
        ∧ ∀ (k : Nat) (row : Row), trace.rows[k]? = some row →
          ∃ line ∈ lines, ∃ (begun : Nat) (beginning : Pencil), Keeps begun beginning
            ∧ Holds (course.pens beginning.latches line) (count + k) row := by
  induction lines with
  | nil =>
      intro count pencil carry keeps
      exact ⟨keeps, fun _ _ found => by cases found⟩
  | cons line lines recurse =>
      intro count pencil carry keeps
      obtain ⟨kept, holds⟩ := course.rows_numbered Keeps Holds (course.pens pencil.latches line)
        (step (course.pens pencil.latches line)) (accumulate pencil.latches.vsize carry).1
        count pencil keeps
      obtain ⟨keptAll, holdsAll⟩ := recurse _ _ (accumulate pencil.latches.vsize carry).2 kept
      simp only [trace, lineRows_eq]
      constructor
      · rw [List.length_append, ← Nat.add_assoc]
        exact keptAll
      · refine numbered_append (fun index row => ∃ other ∈ line :: lines,
          ∃ (begun : Nat) (beginning : Pencil), Keeps begun beginning
            ∧ Holds (course.pens beginning.latches other) index row) ?_ ?_
        · exact fun k row found =>
            ⟨line, List.mem_cons_self, count, pencil, keeps, holds k row found⟩
        · intro k row found
          obtain ⟨other, among, begun⟩ := holdsAll k row found
          exact ⟨other, List.mem_cons_of_mem _ among, begun⟩

end Numbered

theorem pens_congr (course : Course) {first second : Latches}
    (same : first.palette = second.palette) (line : List UInt8) :
    course.pens first line = course.pens second line := by
  have pen : first.pen = second.pen := by
    funext index
    rw [Latches.pen, Latches.pen, same]
  rw [pens, pens, pen]

/-- A row that is painted from the column of its position on, each pen as wide as its
size makes it. Off the screen nothing is painted. -/
def Paints (course : Course) (pens : List UInt8) (row : Row) : Prop :=
  row.placements
    = if Screen.hasLine row.y then
        spread course.heading.horizontal row.hsize row.y pens (course.column row.hpos)
          course.heading.horizontal.bias
      else []

theorem paints_row (course : Course) (pens : List UInt8) (pencil : Pencil) :
    course.Paints pens (course.row pens pencil).1 := by
  by_cases visible : Screen.hasLine pencil.y
  · rw [row, if_pos visible]
    exact (if_pos visible).symm
  · rw [row, if_neg visible]
    exact (if_neg visible).symm

end Course

/-! ## Passes in a row -/

/-- Passes one after the other, each of which begins with the latches that the one
before it left. -/
inductive Handed (Relates : Latches → Pass → Latches → Prop) :
    Latches → List Pass → Latches → Prop where
  | none (latches : Latches) : Handed Relates latches [] latches
  | more {before between after : Latches} {pass : Pass} {passes : List Pass}
      (first : Relates before pass between) (rest : Handed Relates between passes after) :
      Handed Relates before (pass :: passes) after

theorem Handed.imp {Relates Further : Latches → Pass → Latches → Prop}
    (follows : ∀ before pass after, Relates before pass after → Further before pass after)
    {before after : Latches} {passes : List Pass} (handed : Handed Relates before passes after) :
    Handed Further before passes after := by
  induction handed with
  | none latches => exact .none latches
  | more first _ recurse => exact .more (follows _ _ _ first) recurse

theorem Handed.first {Relates : Latches → Pass → Latches → Prop} {before after : Latches}
    {passes : List Pass} (handed : Handed Relates before passes after) {pass : Pass}
    (found : passes.head? = some pass) : ∃ between, Relates before pass between := by
  cases handed with
  | none => cases found
  | more begun _ =>
      obtain rfl := Option.some.inj found
      exact ⟨_, begun⟩

namespace Job

/-- A pass that a job makes when it begins with some latches, from whatever place in
the data and on whatever canvas, and the latches that it leaves. -/
def Makes (job : Job) (before : Latches) (pass : Pass) (after : Latches) : Prop :=
  ∃ (quadrant : Quadrant) (drawing : Drawing), drawing.latches = before
    ∧ (job.pass quadrant drawing).1.latches = after
    ∧ (job.pass quadrant drawing).1.reversedPasses = pass :: drawing.reversedPasses

/-- A pass is superclipped and has no rows, or it has those of its lines of data. -/
theorem Makes.cases {job : Job} {before after : Latches} {pass : Pass}
    (made : job.Makes before pass after) :
    (pass.summary.superclipped = true ∧ pass.rows = [] ∧ after = before)
      ∨ (pass.summary.superclipped = false
        ∧ let trace := (job.course pass.summary.quadrant).passTrace pass.lines before
          pass.rows = trace.rows ∧ after = trace.pencil.latches) := by
  obtain ⟨quadrant, drawing, rfl, rfl, passed⟩ := made
  obtain ⟨reading, _, made⟩ := job.pass_eq quadrant drawing
  rw [made] at passed ⊢
  cases draws : job.draws quadrant drawing.latches with
  | true =>
      right
      rw [perform_of_draws reading draws] at passed ⊢
      obtain rfl := (List.cons.inj passed).1
      exact ⟨rfl, rfl, rfl⟩
  | false =>
      left
      rw [perform_of_skips reading draws] at passed ⊢
      obtain rfl := (List.cons.inj passed).1
      exact ⟨rfl, rfl, rfl⟩

theorem exists_pass (job : Job) (quadrant : Quadrant) (drawing : Drawing) :
    ∃ pass, (job.pass quadrant drawing).1.reversedPasses = pass :: drawing.reversedPasses := by
  unfold Job.pass
  split
  · exact ⟨_, rfl⟩
  · exact ⟨_, rfl⟩

theorem passes_of_pass {job : Job} {quadrant : Quadrant} {drawing : Drawing} {pass : Pass}
    (passed : (job.pass quadrant drawing).1.reversedPasses = pass :: drawing.reversedPasses) :
    (job.pass quadrant drawing).1.passes = drawing.passes ++ [pass] := by
  rw [Drawing.passes, passed, List.reverse_cons, Drawing.passes]

/-- **The passes of a run hand on their latches.** -/
theorem run_handed (job : Job) (count : Nat) :
    ∀ (quadrant : Quadrant) (drawing : Drawing),
      let last := job.run count quadrant drawing
      ∃ passes, last.passes = drawing.passes ++ passes
        ∧ Handed job.Makes drawing.latches passes last.latches := by
  induction count with
  | zero =>
      intro quadrant drawing
      exact ⟨[], (List.append_nil _).symm, .none drawing.latches⟩
  | succ count recurse =>
      intro quadrant drawing
      obtain ⟨pass, passed⟩ := job.exists_pass quadrant drawing
      have made : job.Makes drawing.latches pass (job.pass quadrant drawing).1.latches :=
        ⟨quadrant, drawing, rfl, rfl, passed⟩
      have passes := passes_of_pass passed
      generalize outcome : job.pass quadrant drawing = result at *
      obtain ⟨after, ending⟩ := result
      cases ending with
      | quadrant =>
          rw [run_of_quadrant count outcome]
          obtain ⟨further, all, handed⟩ := recurse quadrant.next after
          refine ⟨pass :: further, ?_, .more made handed⟩
          rw [all, passes, List.append_assoc, List.singleton_append]
      | sprite =>
          rw [run_of_sprite count outcome]
          exact ⟨[pass], passes, .more made (.none after.latches)⟩
      | overrun =>
          rw [run_of_overrun count outcome]
          exact ⟨[pass], passes, .more made (.none after.latches)⟩

end Job

/-- **A sprite is drawn in passes that hand on its latches.** -/
theorem draw_handed (scene : Scene) (descriptor : Descriptor) (latches : Latches)
    (canvas : Canvas) :
    let drawing := draw scene descriptor latches canvas
    Handed (Job.ofSprite scene descriptor latches).Makes latches drawing.passes
      drawing.latches := by
  obtain ⟨passes, all, handed⟩ := (Job.ofSprite scene descriptor latches).run_handed 4
    descriptor.control.startQuadrant (Drawing.start descriptor.data latches canvas)
  rw [← draw_eq_run] at all handed
  obtain rfl : _ = passes := all
  exact handed

/-- The passes of a sprite that has the sample for its data are those of the sample's
two quadrants. -/
theorem passes_sample {descriptor : Descriptor} (data : descriptor.data = 0x3000)
    (start : descriptor.control.startQuadrant = .downRight) (latches : Latches) :
    let scene : Scene := ⟨0, 0, 0xC000, false, none⟩
    let canvas : Canvas := ⟨Metered.fresh sampleMemory, Collisions.empty⟩
    (draw scene descriptor latches canvas).passes
      = ((Job.ofSprite scene descriptor latches).performAll
          [(.downRight, ⟨[[0x12, 0x34]], .quadrant⟩), (.upRight, ⟨[[0x10]], .sprite⟩)]
          (Drawing.start 0x3000 latches canvas)).passes := by
  intro scene canvas
  have script : readSprite canvas.memory.memory 0x3000 .downRight = _ :=
    readSprite_sample slice_sampleMemory .downRight
  have apart : DataApart scene.videoBase (Cursor.start 0x3000)
      (scriptBytes (readSprite canvas.memory.memory 0x3000 .downRight)) :=
    sample_apart slice_sampleMemory .downRight
  rw [draw_eq_performAll latches (by rw [data, start]; exact apart), data, start, script]
  rfl

end LynxSuzy.Sprite
