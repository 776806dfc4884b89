import LynxSuzy.Proofs.Consumption
import LynxSuzy.Proofs.Coverage

/-!
Contract: which pixel of a sprite's data lands where, when nothing stretches or
tilts it.

Owns: the floor formula behind an accumulator that does not wrap, the rows of a
line and of a quadrant in terms of it, and the pixels of a whole sprite. Lines
and rows that are given up past the screen do not show in the formula, for
nothing of them would be on the screen.

Does **not** own: sizes that change from row to row.
-/

set_option autoImplicit false

namespace LynxSuzy.Sprite

/-! ## Accumulators -/

/-- **So many units of a size cover the whole part of their sum**, as long as
the accumulator cannot wrap. -/
theorem units_eq {size : UInt16} (narrow : size ≤ 0xFF00) (count : Nat) :
    ∀ {carry : UInt16}, carry.toNat < 256 →
      units size count carry = (count * size.toNat + carry.toNat) / 256 := by
  have bound : size.toNat ≤ 0xFF00 := UInt16.le_iff_toNat_le.1 narrow
  induction count with
  | zero =>
      intro carry fraction
      rw [units, Nat.zero_mul, Nat.zero_add, Nat.div_eq_of_lt fraction]
  | succ count recurse =>
      intro carry fraction
      have sum : (carry + size).toNat = carry.toNat + size.toNat := by
        rw [UInt16.toNat_add]
        omega
      have rest : (accumulate size carry).2.toNat = (carry.toNat + size.toNat) % 256 := by
        rw [carry_accumulate, sum]
      rw [units, units_accumulate, sum, recurse (by omega), rest, Nat.succ_mul]
      omega

theorem bias_lt (direction : Direction) : direction.bias.toNat < 256 := by
  cases direction <;> decide

/-! ## Rows of a line -/

namespace Course

/-- A course on which neither stretch nor tilt applies. -/
structure Plain (course : Course) : Prop where
  noStretch : course.control.reload.hasStretch = false
  noTilt : course.control.reload.hasTilt = false

/-- What a line of pens paints of a placement's column and pen, whatever screen
line it is drawn on. -/
def Shows (course : Course) (latches : Latches) (pens : List UInt8) (placement : Placement) :
    Prop :=
  Screen.hasColumn placement.x = true ∧ ∃ index offset : Nat, pens[index]? = some placement.pen
    ∧ units latches.hsize index course.heading.horizontal.bias ≤ offset
    ∧ offset < units latches.hsize (index + 1) course.heading.horizontal.bias
    ∧ placement.x = course.column latches.hpos + course.heading.horizontal.sign * offset

theorem settle_of_level {pencil : Pencil} (level : pencil.lean = 0) : pencil.settle = pencil := by
  obtain ⟨latches, y, lean⟩ := pencil
  subst level
  have still : UInt16.ofInt (Word.signed 0 / 256) = 0 := by decide
  simp only [Pencil.settle, still, UInt16.add_zero]
  rfl

theorem row_of_level (course : Course) (pens : List UInt8) {pencil : Pencil}
    (level : pencil.lean = 0) :
    course.row pens pencil
      = (⟨pencil.y, pencil.latches.hpos, pencil.latches.hsize,
            if Screen.hasLine pencil.y then course.place pens pencil else []⟩,
          course.advance pencil) := by
  unfold row
  split
  · simp only [settle_of_level level]
  · rfl

section Plain

variable {course : Course}

theorem row_of_plain (plain : course.Plain) (pens : List UInt8) {pencil : Pencil}
    (level : pencil.lean = 0) :
    course.row pens pencil
      = (⟨pencil.y, pencil.latches.hpos, pencil.latches.hsize,
            if Screen.hasLine pencil.y then course.place pens pencil else []⟩,
          { pencil with y := pencil.y + course.heading.vertical.sign }) := by
  have next : course.advance pencil
      = { pencil with y := pencil.y + course.heading.vertical.sign } := by
    simp only [advance, plain.noStretch, plain.noTilt, Bool.false_eq_true, if_false]
  rw [row_of_level course pens level, next]

theorem mem_row_iff (plain : course.Plain) {pens : List UInt8} {pencil : Pencil}
    (level : pencil.lean = 0) {placement : Placement} :
    placement ∈ (course.row pens pencil).1.placements
      ↔ Screen.hasLine placement.y = true ∧ placement.y = pencil.y
        ∧ course.Shows pencil.latches pens placement := by
  rw [row_of_plain plain pens level]
  cases visible : Screen.hasLine pencil.y with
  | true =>
      simp only [if_true, place, mem_spread_iff, Shows]
      constructor
      · rintro ⟨column, onLine, unit⟩
        exact ⟨by rw [onLine, visible], onLine, column, unit⟩
      · rintro ⟨_, onLine, column, unit⟩
        exact ⟨column, onLine, unit⟩
  | false =>
      simp only [Bool.false_eq_true, if_false, List.not_mem_nil, false_iff]
      rintro ⟨onScreen, onLine, _⟩
      rw [onLine, visible] at onScreen
      cases onScreen

/-- **The rows of a line of data** cover as many screen lines as it is high, of
which those on the screen are painted. -/
theorem mem_rows_iff (plain : course.Plain) {pens : List UInt8} {placement : Placement}
    (height : Nat) :
    ∀ {pencil : Pencil}, pencil.lean = 0 →
      (placement ∈ (course.rows pens height pencil).1.flatMap Row.placements
        ↔ Screen.hasLine placement.y = true
          ∧ (∃ offset < height,
              placement.y = pencil.y + course.heading.vertical.sign * offset)
          ∧ course.Shows pencil.latches pens placement) := by
  induction height with
  | zero =>
      intro pencil level
      simp [rows]
  | succ height recurse =>
      intro pencil level
      rw [rows]
      split
      · rename_i past
        simp only [List.flatMap_nil, List.not_mem_nil, false_iff]
        rintro ⟨onScreen, ⟨offset, _, place⟩, _⟩
        rw [place, Screen.hasLine_iff] at onScreen
        exact Direction.not_onAxis_of_isPast past offset onScreen
      · have next : (course.row pens pencil).2
            = { pencil with y := pencil.y + course.heading.vertical.sign } := by
          rw [row_of_plain plain pens level]
        have later := @recurse (course.row pens pencil).2 (by rw [next]; exact level)
        simp only [List.flatMap_cons, List.mem_append, mem_row_iff plain level, later]
        rw [next]
        constructor
        · rintro (⟨onScreen, onLine, shows⟩ | ⟨onScreen, ⟨offset, inside, place⟩, shows⟩)
          · exact ⟨onScreen, ⟨0, Nat.succ_pos height, by simpa using onLine⟩, shows⟩
          · refine ⟨onScreen, ⟨offset + 1, Nat.succ_lt_succ inside, ?_⟩, shows⟩
            rw [place, Direction.steps_succ]
        · rintro ⟨onScreen, ⟨offset, inside, place⟩, shows⟩
          cases offset with
          | zero => exact Or.inl ⟨onScreen, by simpa using place, shows⟩
          | succ offset =>
              refine Or.inr ⟨onScreen, ⟨offset, Nat.lt_of_succ_lt_succ inside, ?_⟩, shows⟩
              rw [place, Direction.steps_succ]

/-- A plain course keeps the latches, and the pencil without a lean. -/
theorem kept_row_of_plain (plain : course.Plain) (pens : List UInt8) {latches : Latches}
    {pencil : Pencil} (kept : pencil.latches = latches ∧ pencil.lean = 0) :
    (course.row pens pencil).2.latches = latches ∧ (course.row pens pencil).2.lean = 0 := by
  rw [row_of_plain plain pens kept.2]
  exact kept

end Plain

/-- Only past the screen are rows of a line given up. -/
theorem rows_given_up (course : Course) (pens : List UInt8) (height : Nat) :
    ∀ pencil : Pencil,
      (course.rows pens height pencil).2.y = pencil.y + course.heading.vertical.sign * height
        ∨ ∃ steps ≤ height,
            (course.rows pens height pencil).2.y
                = pencil.y + course.heading.vertical.sign * steps
              ∧ course.heading.vertical.isPast Screen.height
                  (course.rows pens height pencil).2.y = true := by
  induction height with
  | zero =>
      intro pencil
      exact Or.inl (by simp [rows])
  | succ height recurse =>
      intro pencil
      rw [rows]
      split
      · rename_i past
        exact Or.inr ⟨0, Nat.zero_le _, by simp, past⟩
      · have next := (course.y_row pens pencil).2
        rcases recurse (course.row pens pencil).2 with all | ⟨steps, few, place, past⟩
        · left
          simp only [all, next, Direction.steps_succ]
        · refine Or.inr ⟨steps + 1, Nat.succ_le_succ few, ?_, past⟩
          simp only [place, next, Direction.steps_succ]

/-- On the screen the rows of later lines lie where they would if no row of this
line were given up. -/
theorem eq_after_rows_iff (course : Course) (pens : List UInt8) (height : Nat) (pencil : Pencil)
    {y : Int} (onScreen : Screen.hasLine y = true) (offset : Nat) :
    y = (course.rows pens height pencil).2.y + course.heading.vertical.sign * offset
      ↔ y = pencil.y + course.heading.vertical.sign * (height + offset : Nat) := by
  rcases course.rows_given_up pens height pencil with all | ⟨steps, few, gone, past⟩
  · rw [all, Direction.steps_add]
  · -- From past the screen on neither place is on it.
    rw [Screen.hasLine_iff] at onScreen
    constructor
    · rintro rfl
      exact absurd onScreen (Direction.not_onAxis_of_isPast past offset)
    · intro place
      have further : y = (course.rows pens height pencil).2.y
          + course.heading.vertical.sign * (height + offset - steps : Nat) := by
        rw [place, gone, Int.add_assoc, ← Int.mul_add]
        congr 2
        omega
      rw [further] at onScreen
      exact absurd onScreen (Direction.not_onAxis_of_isPast past _)

/-- From past the screen on no line of data has rows. -/
theorem trace_of_past (course : Course) {pencil : Pencil}
    (past : course.heading.vertical.isPast Screen.height pencil.y = true)
    (lines : List (List UInt8)) :
    ∀ carry : UInt16, (course.trace lines pencil carry).rows = [] := by
  induction lines with
  | nil => exact fun _ => rfl
  | cons bytes lines recurse =>
      intro carry
      simp only [trace, lineRows_eq, rows_of_isPast _ _ past, recurse, List.append_nil]

/-! ## Rows of a quadrant -/

section Plain

variable {course : Course}

/-- **The rows of a quadrant**: each line of data covers as many screen lines as
its unit of the height takes up. -/
theorem mem_trace_iff (plain : course.Plain) {placement : Placement}
    (lines : List (List UInt8)) :
    ∀ {pencil : Pencil} {carry : UInt16}, pencil.lean = 0 →
      (placement ∈ (course.trace lines pencil carry).rows.flatMap Row.placements
        ↔ Screen.hasLine placement.y = true
          ∧ ∃ (index offset : Nat) (line : List UInt8), lines[index]? = some line
            ∧ units pencil.latches.vsize index carry ≤ offset
            ∧ offset < units pencil.latches.vsize (index + 1) carry
            ∧ placement.y = pencil.y + course.heading.vertical.sign * offset
            ∧ course.Shows pencil.latches (course.pens pencil.latches line) placement) := by
  induction lines with
  | nil =>
      intro pencil carry level
      simp [trace]
  | cons bytes lines recurse =>
      intro pencil carry level
      obtain ⟨latches, still⟩ := (course.rows_spec
        (fun after => after.latches = pencil.latches ∧ after.lean = 0) (fun _ => True)
        (course.pens pencil.latches bytes)
        (fun _ kept _ => ⟨kept_row_of_plain plain _ kept, trivial⟩)
        (accumulate pencil.latches.vsize carry).1 pencil ⟨rfl, level⟩).1
      -- The first line covers the offsets below its height, and the other lines
      -- those from there on, counted from where its rows end.
      have here := @mem_rows_iff course plain (course.pens pencil.latches bytes) placement
        (accumulate pencil.latches.vsize carry).1 pencil level
      have later := @recurse (course.rows (course.pens pencil.latches bytes)
        (accumulate pencil.latches.vsize carry).1 pencil).2
        (accumulate pencil.latches.vsize carry).2 still
      simp only [trace, lineRows_eq, List.flatMap_append, List.mem_append, here, later, latches]
      constructor
      · rintro (⟨onScreen, ⟨offset, inside, place⟩, shows⟩ |
          ⟨onScreen, index, offset, line, found, least, most, place, shows⟩)
        · exact ⟨onScreen, 0, offset, bytes, rfl, Nat.zero_le _, by simpa [units] using inside,
            place, shows⟩
        · refine ⟨onScreen, index + 1, (accumulate pencil.latches.vsize carry).1 + offset, line,
            by simpa using found, by simpa [units] using least, ?_,
            (course.eq_after_rows_iff _ _ pencil onScreen offset).1 place, shows⟩
          rw [units]
          exact Nat.add_lt_add_left most _
      · rintro ⟨onScreen, index, offset, line, found, least, most, place, shows⟩
        cases index with
        | zero =>
            left
            have same : bytes = line := by simpa using found
            subst same
            exact ⟨onScreen, ⟨offset, by simpa [units] using most, place⟩, shows⟩
        | succ index =>
            right
            rw [units] at least most
            refine ⟨onScreen, index, offset - (accumulate pencil.latches.vsize carry).1, line,
              by simpa using found, by omega, by omega, ?_, shows⟩
            rw [course.eq_after_rows_iff _ _ pencil onScreen, place]
            congr 3
            omega

theorem latches_pass_of_plain (plain : course.Plain) (lines : List (List UInt8))
    (latches : Latches) : (course.passTrace lines latches).pencil.latches = latches :=
  ((course.trace_spec (fun after => after.latches = latches ∧ after.lean = 0) (fun _ => True)
    (fun pens _ kept _ => ⟨kept_row_of_plain plain pens kept, trivial⟩)
    lines (course.pencil latches) course.heading.vertical.bias ⟨rfl, rfl⟩).1).1

end Plain

/-! ## The floor formula -/

/-- The position and pen that a line and a pixel in it put on the screen: with
the line's number `r` and the pixel's number `c`, the columns from the whole part
of `c` widths on up to that of `c + 1`, and the screen lines likewise from the
height. Going forward a half less one part is added first. -/
def Covers (course : Course) (latches : Latches) (lines : List (List UInt8))
    (placement : Placement) : Prop :=
  Screen.has placement.x placement.y = true
    ∧ ∃ (r c i j : Nat) (line : List UInt8) (pixel : UInt8),
      lines[r]? = some line
        ∧ (Line.pixels line course.control.depth course.control.literal)[c]? = some pixel
        ∧ placement.pen = latches.pen pixel
        ∧ (c * latches.hsize.toNat + course.heading.horizontal.bias.toNat) / 256 ≤ i
        ∧ i < ((c + 1) * latches.hsize.toNat + course.heading.horizontal.bias.toNat) / 256
        ∧ (r * latches.vsize.toNat + course.heading.vertical.bias.toNat) / 256 ≤ j
        ∧ j < ((r + 1) * latches.vsize.toNat + course.heading.vertical.bias.toNat) / 256
        ∧ placement.x = Word.signed latches.hpos - course.scene.left
            + course.heading.horizontal.seam course.first.horizontal
            + course.heading.horizontal.sign * i
        ∧ placement.y = Word.signed latches.vpos - course.scene.top
            + course.heading.vertical.seam course.first.vertical
            + course.heading.vertical.sign * j

/-- **A plain pass paints what the floor formula covers.** -/
theorem mem_passTrace_iff {course : Course} (plain : course.Plain) {latches : Latches}
    (narrow : latches.hsize ≤ 0xFF00) (low : latches.vsize ≤ 0xFF00)
    {lines : List (List UInt8)} {placement : Placement} :
    placement ∈ (course.passTrace lines latches).rows.flatMap Row.placements
      ↔ course.Covers latches lines placement := by
  have across := fun count => units_eq narrow count (bias_lt course.heading.horizontal)
  have down := fun count => units_eq low count (bias_lt course.heading.vertical)
  rw [passTrace, mem_trace_iff plain lines rfl]
  simp only [Shows, pencil, across, down, Covers, pens, List.getElem?_map, Option.map_eq_some_iff]
  constructor
  · rintro ⟨onLine, r, j, line, found, top, bottom, y, onColumn, c, i, ⟨pixel, given, pen⟩, left,
      right, x⟩
    refine ⟨?_, r, c, i, j, line, pixel, found, given, pen.symm, left, right, top, bottom, x, y⟩
    rw [Screen.has, onColumn, onLine]
    rfl
  · rintro ⟨onScreen, r, c, i, j, line, pixel, found, given, pen, left, right, top, bottom, x, y⟩
    rw [Screen.has, Bool.and_eq_true] at onScreen
    exact ⟨onScreen.2, r, j, line, found, top, bottom, y, onScreen.1, c, i,
      ⟨pixel, given, pen.symm⟩, left, right, x⟩

end Course

/-! ## Whole sprites -/

/-- A pass that paints what the floor formula covers, each position at most
once. A pass that is superclipped paints nothing. -/
structure Pass.Scaled (job : Job) (latches : Latches) (pass : Pass)
    (entry : Quadrant × Reading) : Prop where
  quadrant : pass.summary.quadrant = entry.1
  rendered : pass.summary.superclipped = !job.draws entry.1 latches
  lines : pass.summary.superclipped = false → pass.lines = entry.2.lines
  once : (pass.placements.map Placement.position).Nodup
  painted : ∀ placement, placement ∈ pass.placements
    ↔ pass.summary.superclipped = false
      ∧ (job.course entry.1).Covers latches entry.2.lines placement

theorem Job.perform_scaled {job : Job} (plain : ∀ quadrant, (job.course quadrant).Plain)
    {latches : Latches} (narrow : latches.hsize ≤ 0xFF00) (low : latches.vsize ≤ 0xFF00)
    {drawing : Drawing} (entry : Quadrant × Reading) (kept : drawing.latches = latches) :
    (job.perform drawing entry).latches = latches
      ∧ ∃ pass, (job.perform drawing entry).reversedPasses = pass :: drawing.reversedPasses
        ∧ pass.Scaled job latches entry := by
  obtain ⟨quadrant, reading⟩ := entry
  subst kept
  cases draws : job.draws quadrant drawing.latches with
  | true =>
      rw [perform_of_draws reading draws]
      refine ⟨Course.latches_pass_of_plain (plain quadrant) _ _, _, rfl, ?_⟩
      constructor
      · rfl
      · simp only [draws, Bool.not_true]
      · exact fun _ => rfl
      · exact (job.course quadrant).nodup_positions_trace reading.lines _ _
      · intro placement
        exact (Course.mem_passTrace_iff (plain quadrant) narrow low).trans
          (and_iff_right rfl).symm
  | false =>
      rw [perform_of_skips reading draws]
      refine ⟨rfl, _, rfl, ?_⟩
      constructor
      · rfl
      · simp only [draws, Bool.not_false]
      · intro rendered
        cases rendered
      · exact List.nodup_nil
      · intro placement
        constructor
        · intro member
          cases member
        · rintro ⟨rendered, _⟩
          cases rendered

/-- Some pass paints if some entry covers a position. -/
theorem exists_placement_iff {job : Job} {latches : Latches} {passes : List Pass}
    {script : List (Quadrant × Reading)}
    (scaled : List.Forall₂ (Pass.Scaled job latches) passes script) :
    (∃ pass ∈ passes, ∃ placement, placement ∈ pass.placements)
      ↔ ∃ entry ∈ script, job.draws entry.1 latches = true
        ∧ ∃ placement, (job.course entry.1).Covers latches entry.2.lines placement := by
  induction scaled with
  | nil => simp
  | cons first _ recurse =>
      simp only [List.exists_mem_cons_iff, recurse, first.painted, first.rendered,
        Bool.not_eq_false', exists_and_left]

/-- **The pixels of a sprite that is neither stretched nor tilted.** With sizes
up to FF00 and its data apart from the frame buffer, every pass that is drawn
paints its lines of data by the floor formula: on each position that the formula
covers exactly once, with the pen of the pixel, and on no other. The sprite was
on the screen if the formula covers some position in a pass that is drawn, and
the canvas changes by plotting these pixels in order. -/
theorem draw_scaled {scene : Scene} {descriptor : Descriptor} {latches : Latches}
    {canvas : Canvas}
    (plain : descriptor.control.reload = .nothing ∨ descriptor.control.reload = .size)
    (narrow : latches.hsize ≤ 0xFF00) (low : latches.vsize ≤ 0xFF00)
    (apart : DataApart scene.videoBase (Cursor.start descriptor.data)
      (scriptBytes (readSprite canvas.memory.memory descriptor.data
        descriptor.control.startQuadrant))) :
    let job := Job.ofSprite scene descriptor latches
    let drawing := draw scene descriptor latches canvas
    let script := readSprite canvas.memory.memory descriptor.data descriptor.control.startQuadrant
    List.Forall₂ (Pass.Scaled job latches) drawing.passes script
      ∧ (drawing.summary.everOnScreen = true
        ↔ ∃ entry ∈ script, job.draws entry.1 latches = true
          ∧ ∃ placement, (job.course entry.1).Covers latches entry.2.lines placement)
      ∧ ∃ count, drawing.canvas
        = (Painted.plotAll job.brush canvas drawing.placements).charged count := by
  intro job drawing script
  have noStretch : job.control.reload.hasStretch = false := by
    rcases plain with none | size
    · exact congrArg Reload.hasStretch none
    · exact congrArg Reload.hasStretch size
  have noTilt : job.control.reload.hasTilt = false := by
    rcases plain with none | size
    · exact congrArg Reload.hasTilt none
    · exact congrArg Reload.hasTilt size
  have courses : ∀ quadrant, (job.course quadrant).Plain := fun _ => ⟨noStretch, noTilt⟩
  have scaled : List.Forall₂ (Pass.Scaled job latches) drawing.passes script :=
    relates_of_apart apart (fun drawing => drawing.latches = latches) (Pass.Scaled job latches)
      (fun _ entry kept => Job.perform_scaled courses narrow low entry kept) rfl
  refine ⟨scaled, ?_, canvas_draw scene descriptor latches canvas⟩
  rw [Drawing.everOnScreen_iff]
  exact exists_placement_iff scaled

theorem pixels_sample :
    Line.pixels [0x12, 0x34] sampleSprite.control.depth sampleSprite.control.literal
      = [1, 2, 3, 4] := by
  decide +kernel

/-- The third pixel of the sample is painted on the third column. -/
theorem sample_scaled :
    let drawing := draw ⟨0, 0, 0xC000, false, none⟩ sampleSprite Latches.initial
      ⟨Metered.fresh sampleMemory, Collisions.empty⟩
    (sampleSprite.control.reload = .nothing ∨ sampleSprite.control.reload = .size)
      ∧ Latches.initial.hsize ≤ 0xFF00 ∧ Latches.initial.vsize ≤ 0xFF00
      ∧ DataApart 0xC000 (Cursor.start 0x3000)
        (scriptBytes (readSprite sampleMemory 0x3000 .downRight))
      ∧ ∃ first rest, drawing.passes = first :: rest ∧ ⟨2, 0, 3⟩ ∈ first.placements := by
  have first : sampleSprite.control.startQuadrant = .downRight := by decide
  have script := readSprite_sample slice_sampleMemory .downRight
  have apart := sample_apart slice_sampleMemory .downRight
  have plain : sampleSprite.control.reload = .nothing ∨ sampleSprite.control.reload = .size :=
    Or.inl (by decide)
  obtain ⟨scaled, _⟩ := @draw_scaled ⟨0, 0, 0xC000, false, none⟩ sampleSprite Latches.initial
    ⟨Metered.fresh sampleMemory, Collisions.empty⟩ plain (by decide) (by decide)
    (by rw [first]; exact apart)
  refine ⟨plain, by decide, by decide, apart, ?_⟩
  rw [first] at scaled
  obtain ⟨pass, rest, painted, _, passes⟩ := List.forall₂_cons_right_iff.1 (script ▸ scaled)
  refine ⟨pass, rest, passes, (painted.painted ⟨2, 0, 3⟩).2 ⟨?_, ?_⟩⟩
  · rw [painted.rendered]
    decide
  · refine ⟨by decide, 0, 2, 2, 0, [0x12, 0x34], 3, rfl, ?_, by decide, by decide, by decide,
      by decide, by decide, by decide, by decide⟩
    exact congrArg (fun pixels => pixels[2]?) pixels_sample

end LynxSuzy.Sprite
