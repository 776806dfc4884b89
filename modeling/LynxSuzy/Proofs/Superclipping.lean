import LynxSuzy.Proofs.Latches
import LynxSuzy.Proofs.Ranges

/-!
Contract: what superclipping leaves out.

Owns: the passes that cannot reach the screen because they start past it, a
sprite that reaches the screen from any other start, and what follows: a pass
that superclipping skips could have been seen exactly when it does not start
past the screen along either axis. The check takes the origin for an unsigned
word and the corner of the screen for a signed one, so such passes exist; for
each direction the origins are given on which it is wrong.

Does **not** own: sprites with a tilt, which moves the origin of each row.
-/

set_option autoImplicit false

namespace LynxSuzy.Sprite

/-! ## The check of one axis -/

namespace Direction

/-- The origins on which the check of an axis is wrong, as it takes the position
for an unsigned word and the edge of the screen for a signed one. Going forward
these are the far negative positions up to the middle of the world; going
backward those beyond the middle that do not lie before the edge. -/
def Overlooks (direction first : Direction) (start : Int) (extent : Nat) (position : UInt16) :
    Prop :=
  match direction with
  | .forward => 0x8000 ≤ position.toNat ∧ start + extent ≤ position.toNat
      ∧ position.toNat ≤ start + 0x8000 + (extent / 2 : Nat)
  | .backward => start + 0x8000 + (extent / 2 : Nat) < position.toNat
      ∧ start ≤ Word.signed position + direction.seam first

/-- **The check of an axis is wrong on these origins and on no others**: it rules
the axis out, yet drawing does not start past it. -/
theorem overlooks_iff {direction first : Direction} {start : Int} {extent : Nat}
    {position : UInt16} (narrow : extent ≤ 0x100) :
    direction.Overlooks first start extent position
      ↔ direction.reaches start extent position = false
        ∧ direction.isPast extent (Word.signed position - start + direction.seam first) = false := by
  have small := position.toNat_lt
  cases direction with
  | forward =>
      have seam : 0 ≤ forward.seam first ∧ forward.seam first ≤ 1 := by cases first <;> decide
      simp only [Overlooks, Bool.eq_false_iff, ne_eq, isPast_forward_iff, reaches,
        Bool.or_eq_true, decide_eq_true_eq, Word.signed]
      split <;> omega
  | backward =>
      have seam : backward.seam first ≤ 0 := by cases first <;> decide
      simp only [Overlooks, Bool.eq_false_iff, ne_eq, isPast_backward_iff, reaches,
        Bool.and_eq_true, decide_eq_true_eq, Word.signed]
      split <;> omega

/-- Some step leads to an axis that is not past. -/
theorem exists_onAxis {direction : Direction} {extent : Nat} {start : Int} (some : 0 < extent)
    (near : -0x10000 ≤ start ∧ start ≤ 0x10000) (onWay : direction.isPast extent start = false) :
    ∃ steps : Nat, steps ≤ 0x10000
      ∧ 0 ≤ start + direction.sign * steps ∧ start + direction.sign * steps < extent := by
  cases direction with
  | forward =>
      rw [← Bool.not_eq_true, isPast_forward_iff] at onWay
      simp only [sign]
      rcases Int.lt_or_le start 0 with before | inside
      · exact ⟨(-start).toNat, by omega, by omega, by omega⟩
      · exact ⟨0, by omega, by omega, by omega⟩
  | backward =>
      rw [← Bool.not_eq_true, isPast_backward_iff] at onWay
      simp only [sign]
      rcases Int.lt_or_le start extent with inside | beyond
      · exact ⟨0, by omega, by omega, by omega⟩
      · exact ⟨(start - extent + 1).toNat, by omega, by omega, by omega⟩

end Direction

/-! ## Passes that start past the screen -/

theorem spread_of_past {direction : Direction} {x : Int}
    (past : direction.isPast Screen.width x = true) (size : UInt16) (y : Int) (pens : List UInt8)
    (carry : UInt16) : spread direction size y pens x carry = [] := by
  cases pens with
  | nil => rfl
  | cons pen pens => rw [spread, if_pos past]

namespace Course

section Untilted

variable {course : Course}

/-- Without a tilt each row of a pass begins in the column of the first, and past
the screen's side it paints nothing. -/
theorem blank_row (untilted : course.control.reload.hasTilt = false) (pens : List UInt8)
    {latches : Latches}
    (past : course.heading.horizontal.isPast Screen.width (course.column latches.hpos) = true)
    {pencil : Pencil} (steady : course.Steady latches pencil) :
    (course.row pens pencil).1.placements = [] := by
  unfold row
  split
  · rw [settle_of_level (steady.level untilted)]
    apply spread_of_past
    rw [steady.spared.hpos untilted]
    exact past
  · rfl

/-- **A pass that starts past the screen along one axis has no pixels**, however
the sizes change from row to row. -/
theorem blank_of_past (untilted : course.control.reload.hasTilt = false) {latches : Latches}
    (past : course.heading.horizontal.isPast Screen.width (course.column latches.hpos) = true
      ∨ course.heading.vertical.isPast Screen.height (course.line latches.vpos) = true)
    (lines : List (List UInt8)) :
    ∀ row ∈ (course.passTrace lines latches).rows, row.placements = [] := by
  rcases past with aside | beyond
  · exact (course.trace_spec (course.Steady latches) (fun row => row.placements = [])
      (fun pens _ steady _ => ⟨steady.row pens, blank_row untilted pens aside steady⟩)
      lines (course.pencil latches) _ (course.steady_pencil latches)).2
  · intro row member
    rw [passTrace, trace_of_past course beyond] at member
    cases member

end Untilted

end Course

/-! ## A sprite that reaches the screen

Equal lines of one bit to a pixel, each pixel and each line as large as sizes
get: 270 lines of 327 pixels reach further than the world is wide. -/

namespace Beam

def byte : UInt8 := 42

def line : List UInt8 := List.replicate 41 byte

def length : Nat := 270 * 42

def memory (start : UInt16) : Memory :=
  (Memory.filled byte).set (start + UInt16.ofNat length) 0

theorem get_memory (start : UInt16) {offset : Nat} (inside : offset < length) :
    (memory start).get (start + UInt16.ofNat offset) = byte := by
  have small : length = 11340 := rfl
  have apart : start + UInt16.ofNat offset ≠ start + UInt16.ofNat length := by
    intro same
    have offsets := congrArg UInt16.toNat ((UInt16.add_right_inj _).1 same)
    rw [UInt16.toNat_ofNat', UInt16.toNat_ofNat'] at offsets
    omega
  rw [memory, Memory.get_set_ne _ _ apart, Memory.get_filled]

theorem get_memory_end (start : UInt16) :
    (memory start).get (start + UInt16.ofNat length) = 0 := by
  rw [memory, Memory.get_set_self]

end Beam

theorem slice_replicate {memory : Memory} {value : UInt8} {count : Nat} {address : UInt16}
    (same : ∀ offset < count, memory.get (address + UInt16.ofNat offset) = value) :
    memory.slice address count = List.replicate count value := by
  have filled : ∀ (count : Nat) (address : UInt16),
      (Memory.filled value).slice address count = List.replicate count value := by
    intro count
    induction count with
    | zero => exact fun _ => rfl
    | succ count recurse =>
        intro address
        rw [Memory.slice, Memory.get_filled, recurse, List.replicate_succ]
  rw [← filled count address]
  apply Memory.slice_congr
  intro offset inside
  rw [same offset inside, Memory.get_filled]

/-- Data that repeats a header has lines that repeat it. -/
theorem readLines_repeated {memory : Memory} {header : UInt8} {count : Nat}
    (promised : Header.ofByte header = .line count) (lines : Nat) :
    ∀ cursor : Cursor,
      (∀ offset < lines * (count + 1),
        memory.get (cursor.address + UInt16.ofNat offset) = header) →
      memory.get (cursor.address + UInt16.ofNat (lines * (count + 1))) = 0 →
      cursor.consumed + lines * (count + 1) < Cursor.limit →
      readLines memory cursor
        = ⟨List.replicate lines (List.replicate count header), .sprite⟩ := by
  induction lines with
  | zero =>
      intro cursor _ ended inside
      rw [Nat.zero_mul] at ended inside
      have found : memory.get cursor.address = 0 := by simpa using ended
      exact readLines_of_endOfSprite inside (by rw [found]; rfl)
  | succ lines recurse =>
      intro cursor repeated ended inside
      rw [Nat.succ_mul] at repeated ended inside
      have head : memory.get cursor.address = header := by
        simpa using repeated 0 (by omega)
      have bytes : memory.slice (cursor.address + 1) count = List.replicate count header := by
        apply slice_replicate
        intro offset within
        have shifted := repeated (offset + 1) (by omega)
        rwa [UInt16.ofNat_add, UInt16.add_comm (UInt16.ofNat offset), ← UInt16.add_assoc]
          at shifted
      have begun : cursor.consumed < Cursor.limit := by omega
      rw [readLines_of_line begun (by rw [head, promised]), bytes, List.replicate_succ,
        recurse (cursor.advance (count + 1))]
      · rfl
      · intro offset within
        have shifted := repeated (count + 1 + offset) (by omega)
        rwa [UInt16.ofNat_add, ← UInt16.add_assoc] at shifted
      · rw [Nat.add_comm, UInt16.ofNat_add, ← UInt16.add_assoc] at ended
        exact ended
      · rw [Cursor.consumed_advance]
        omega

namespace Beam

theorem readLines_memory (start : UInt16) :
    readLines (memory start) (Cursor.start start) = ⟨List.replicate 270 line, .sprite⟩ := by
  apply readLines_repeated (by decide)
  · exact fun offset inside => get_memory start inside
  · exact get_memory_end start
  · change 0 + 270 * (41 + 1) < 65536
    decide

theorem dataApart (base : UInt16) :
    DataApart base (Cursor.start (base + 8160))
      (readLines (memory (base + 8160)) (Cursor.start (base + 8160))).bytes := by
  have count : (readLines (memory (base + 8160)) (Cursor.start (base + 8160))).bytes = 11341 := by
    simp only [readLines_memory, Reading.bytes, Reading.lineBytes, line, List.map_replicate,
      List.length_replicate, List.sum_replicate_nat, Ending.bytesRead]
  rw [count]
  rintro address ⟨offset, inside, rfl⟩
  have place : base + 8160 + UInt16.ofNat offset - base = UInt16.ofNat (8160 + offset) := by
    rw [UInt16.ofNat_add, UInt16.add_assoc, UInt16.add_comm, UInt16.add_sub_cancel]
    rfl
  have beyond : (UInt16.ofNat (8160 + offset)).toNat = 8160 + offset := by
    rw [UInt16.toNat_ofNat']
    omega
  simp only [Screen.inFrame, Cursor.start, place, beyond, Screen.height, Screen.bytesPerLine,
    decide_eq_false_iff_not]
  omega

def sprite (first : Quadrant) : Descriptor where
  address := 0
  control0 := 0x04
  control1 :=
    match first with
    | .downRight => 0x98
    | .upRight => 0x9A
    | .upLeft => 0x9B
    | .downLeft => 0x99
  collision := 0
  link := 0
  data := 0

def latches (hpos vpos : UInt16) : Latches :=
  { Latches.initial with hpos := hpos, vpos := vpos, hsize := 0xFF00, vsize := 0xFF00 }

theorem pixels_line : (Line.pixels line 1 true).length = 327 := by
  decide +kernel

/-- With the greatest size each pixel or line takes 255 units. -/
theorem unit_covers (steps : Nat) (direction : Direction) :
    (steps / 255 * (0xFF00 : UInt16).toNat + direction.bias.toNat) / 256 ≤ steps
      ∧ steps < ((steps / 255 + 1) * (0xFF00 : UInt16).toNat + direction.bias.toNat) / 256 := by
  have fraction := bias_lt direction
  have size : (0xFF00 : UInt16).toNat = 255 * 256 := rfl
  rw [size]
  omega

theorem course_sprite (scene : Scene) (heading first : Quadrant) (latches : Latches) :
    (Job.ofSprite scene (sprite first) latches).course heading
      = ⟨scene, (sprite first).control, heading, first⟩ := by
  have headed : heading.flipped (sprite first).control = heading := by
    cases first <;> cases heading <;> decide
  have started : (sprite first).control.startQuadrant.flipped (sprite first).control = first := by
    cases first <;> decide
  simp only [Job.course, Job.ofSprite, headed, started]

theorem plain_sprite (first : Quadrant) :
    (sprite first).control.reload.hasStretch = false
      ∧ (sprite first).control.reload.hasTilt = false
      ∧ (sprite first).control.depth = 1 ∧ (sprite first).control.literal = true := by
  cases first <;> decide

/-- **The beam reaches the screen from any start that is not past it.** -/
theorem covers_position {scene : Scene} (inWorld : scene.InWorld) {heading first : Quadrant}
    {hpos vpos : UInt16}
    (across : heading.horizontal.isPast Screen.width
      (Word.signed hpos - scene.left + heading.horizontal.seam first.horizontal) = false)
    (down : heading.vertical.isPast Screen.height
      (Word.signed vpos - scene.top + heading.vertical.seam first.vertical) = false) :
    ∃ placement, (Course.mk scene (sprite first).control heading first).Covers
      (latches hpos vpos) (List.replicate 270 line) placement := by
  obtain ⟨⟨left, right⟩, top, bottom⟩ := inWorld
  have hlower := Word.signed_lower hpos
  have hupper := Word.signed_upper hpos
  have vlower := Word.signed_lower vpos
  have vupper := Word.signed_upper vpos
  have hseam := heading.horizontal.seam_range first.horizontal
  have vseam := heading.vertical.seam_range first.vertical
  obtain ⟨i, near, leftmost, rightmost⟩ :=
    Direction.exists_onAxis (by decide) ⟨by omega, by omega⟩ across
  obtain ⟨j, close, topmost, lowest⟩ :=
    Direction.exists_onAxis (by decide) ⟨by omega, by omega⟩ down
  obtain ⟨_, _, depth, literal⟩ := plain_sprite first
  have pixel : i / 255 < (Line.pixels line 1 true).length := by
    rw [pixels_line]
    omega
  have row : (List.replicate 270 line)[j / 255]? = some line := by
    rw [List.getElem?_replicate, if_pos (by omega)]
  obtain ⟨leftUnit, rightUnit⟩ := unit_covers i heading.horizontal
  obtain ⟨topUnit, lowUnit⟩ := unit_covers j heading.vertical
  refine ⟨⟨_, _, (latches hpos vpos).pen (Line.pixels line 1 true)[i / 255]⟩, ?_, j / 255, i / 255,
    i, j, line, (Line.pixels line 1 true)[i / 255], row, ?_, rfl, leftUnit, rightUnit, topUnit,
    lowUnit, rfl, rfl⟩
  · exact Screen.has_iff.2 ⟨⟨leftmost, rightmost⟩, topmost, lowest⟩
  · simp only [depth, literal]
    exact List.getElem?_eq_getElem pixel

end Beam

/-! ## What is skipped -/

/-- No sprite without a tilt visits a position of the screen from an origin when
it is drawn in the given directions, wherever its data stands and whatever is on
the canvas. -/
def Scene.Blank (scene : Scene) (heading first : Quadrant) (hpos vpos : UInt16) : Prop :=
  ∀ (descriptor : Descriptor) (quadrant : Quadrant) (latches : Latches) (canvas : Canvas)
    (cursor : Cursor), descriptor.control.reload.hasTilt = false →
    latches.hpos = hpos → latches.vpos = vpos →
    let job := Job.ofSprite scene descriptor latches
    let course := job.course quadrant
    course.heading = heading → course.first = first →
    ∀ row ∈ (drawLines course job.brush cursor
        (Progress.start course canvas latches)).progress.rows, row.placements = []

/-- The rows of a quadrant whose data lies outside the frame buffer. -/
theorem rows_drawLines {course : Course} {brush : Brush} {cursor : Cursor} {memory : Memory}
    (latches : Latches)
    (apart : DataApart brush.videoBase cursor (readLines memory cursor).bytes) :
    (drawLines course brush cursor
        (Progress.start course ⟨Metered.fresh memory, Collisions.empty⟩ latches)).progress.rows
      = (course.passTrace (readLines memory cursor).lines latches).rows.reverse := by
  have drawn := drawLines_eq_readLines course cursor
    (Progress.start course ⟨Metered.fresh memory, Collisions.empty⟩ latches)
    (Memory.AgreeOutside.refl brush.videoBase memory) apart
  rw [drawn]
  simp only [Progress.after, Progress.start, List.append_nil]
  rfl

/-- **A pass can be seen from any start that is not past the screen**, and from
no other. -/
theorem blank_iff {scene : Scene} (inWorld : scene.InWorld) {heading first : Quadrant}
    {hpos vpos : UInt16} :
    scene.Blank heading first hpos vpos
      ↔ heading.horizontal.isPast Screen.width
            (Word.signed hpos - scene.left + heading.horizontal.seam first.horizontal) = true
        ∨ heading.vertical.isPast Screen.height
            (Word.signed vpos - scene.top + heading.vertical.seam first.vertical) = true := by
  constructor
  · intro blank
    by_contra reaching
    rw [not_or, Bool.not_eq_true, Bool.not_eq_true] at reaching
    -- The sprite to show is the beam, with its data right behind the frame buffer
    -- so that it cannot paint over it.
    obtain ⟨placement, covered⟩ := Beam.covers_position inWorld reaching.1 reaching.2
    obtain ⟨noStretch, noTilt, _⟩ := Beam.plain_sprite first
    have course := Beam.course_sprite scene heading first (Beam.latches hpos vpos)
    have rows := blank (Beam.sprite first) heading (Beam.latches hpos vpos)
      ⟨Metered.fresh (Beam.memory (scene.videoBase + 8160)), Collisions.empty⟩
      (Cursor.start (scene.videoBase + 8160)) noTilt rfl rfl (by rw [course]) (by rw [course])
    have drawn := @rows_drawLines ⟨scene, (Beam.sprite first).control, heading, first⟩
      (Job.ofSprite scene (Beam.sprite first) (Beam.latches hpos vpos)).brush
      (Cursor.start (scene.videoBase + 8160)) (Beam.memory (scene.videoBase + 8160))
      (Beam.latches hpos vpos) (Beam.dataApart scene.videoBase)
    rw [Beam.readLines_memory] at drawn
    simp only [course, drawn, List.mem_reverse] at rows
    have plain : (Course.mk scene (Beam.sprite first).control heading first).Plain :=
      ⟨noStretch, noTilt⟩
    have painted := (Course.mem_passTrace_iff plain (UInt16.le_refl _) (UInt16.le_refl _)).2 covered
    obtain ⟨row, among, inRow⟩ := List.mem_flatMap.1 painted
    rw [rows row among] at inRow
    cases inRow
  · intro past descriptor quadrant latches canvas cursor untilted left top job course headed started
    subst left top headed started
    obtain ⟨reading, _, drawn⟩ := drawLines_eq course job.brush cursor
      (Progress.start course canvas latches)
    intro row member
    rw [drawn] at member
    simp only [Progress.after, Progress.start, List.append_nil, List.mem_reverse] at member
    exact Course.blank_of_past untilted past reading.lines row member

/-- **What superclipping skips could have been seen exactly when the check
overlooks an axis** and the pass starts past neither. Any other pass that it
skips has no pixels to show, whatever its sprite is; for each of these there are
sprites whose pixels it would have put on the screen. -/
theorem superclipped_blank_iff {scene : Scene} (inWorld : scene.InWorld)
    {heading first : Quadrant} {hpos vpos : UInt16}
    (clipped : scene.reachedBy heading hpos vpos = false) :
    scene.Blank heading first hpos vpos
      ↔ ¬ (heading.horizontal.isPast Screen.width
            (Word.signed hpos - scene.left + heading.horizontal.seam first.horizontal) = false
          ∧ heading.vertical.isPast Screen.height
            (Word.signed vpos - scene.top + heading.vertical.seam first.vertical) = false
          ∧ (heading.horizontal.Overlooks first.horizontal scene.left Screen.width hpos
            ∨ heading.vertical.Overlooks first.vertical scene.top Screen.height vpos)) := by
  rw [blank_iff inWorld, Direction.overlooks_iff (by decide), Direction.overlooks_iff (by decide)]
  rw [Scene.reachedBy, Bool.and_eq_false_iff] at clipped
  constructor
  · rintro past ⟨across, down, _⟩
    rcases past with aside | beyond
    · rw [across] at aside
      cases aside
    · rw [down] at beyond
      cases beyond
  · intro seen
    by_contra reaching
    rw [not_or, Bool.not_eq_true, Bool.not_eq_true] at reaching
    apply seen
    refine ⟨reaching.1, reaching.2, ?_⟩
    rcases clipped with across | down
    · exact Or.inl ⟨across, reaching.1⟩
    · exact Or.inr ⟨down, reaching.2⟩

/-- With the screen a hundred columns left of the world's origin, a sprite just
left of that origin and above the screen is not drawn to the left and down. Its
first column there is number 99 on the screen. -/
theorem overlooked_leftwards :
    let scene : Scene := ⟨-100, 0, 0xC000, false, none⟩
    scene.shows 0xFFFF 0xFFF6 = false ∧ scene.reachedBy .downLeft 0xFFFF 0xFFF6 = false
      ∧ ¬ scene.Blank .downLeft .downLeft 0xFFFF 0xFFF6 := by
  intro scene
  have inWorld : scene.InWorld := ⟨by decide, by decide⟩
  have clipped : scene.reachedBy .downLeft 0xFFFF 0xFFF6 = false := by decide
  refine ⟨by decide, clipped, ?_⟩
  rw [superclipped_blank_iff inWorld clipped, not_not]
  refine ⟨by decide, by decide, Or.inl ?_⟩
  constructor <;> decide

end LynxSuzy.Sprite
