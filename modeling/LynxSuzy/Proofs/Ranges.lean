import LynxSuzy.Proofs.Bits
import LynxSuzy.Proofs.Coverage
import LynxSuzy.Proofs.Script

/-!
Contract: the numbers that come up while a sprite is drawn fit machine words.

Owns: the ranges of the columns and screen lines that a pass steps over, of the
offsets into the frame buffer, of what reading a line's bits subtracts and
shifts, and of the data behind the cursor. Offsets of the screen are signed
words, as the chip gives them.

Does **not** own: the sums over a run (`Proofs.Bounds`).
-/

set_option autoImplicit false

namespace LynxSuzy

def FitsLong (number : Int) : Prop :=
  -0x80000000 ≤ number ∧ number < 0x80000000

namespace Sprite

/-- The screen's corner in the world is a pair of signed words. -/
structure Scene.InWorld (scene : Scene) : Prop where
  left : -0x8000 ≤ scene.left ∧ scene.left < 0x8000
  top : -0x8000 ≤ scene.top ∧ scene.top < 0x8000

/-- What the check of an origin off the screen adds up fits. -/
structure Scene.InRange (scene : Scene) : Prop where
  right : FitsLong (scene.left + Screen.width)
  bottom : FitsLong (scene.top + Screen.height)
  middleColumn : FitsLong (scene.left + 0x8000 + (Screen.width / 2 : Nat))
  middleLine : FitsLong (scene.top + 0x8000 + (Screen.height / 2 : Nat))

theorem Scene.InWorld.inRange {scene : Scene} (inWorld : scene.InWorld) : scene.InRange := by
  obtain ⟨left, top⟩ := inWorld
  constructor <;> simp only [FitsLong, Screen.width, Screen.height] <;> omega

theorem units_le (size : UInt16) (count : Nat) :
    ∀ carry : UInt16, units size count carry ≤ 255 * count := by
  induction count with
  | zero => exact fun _ => Nat.le_refl _
  | succ count recurse =>
      intro carry
      have most : (accumulate size carry).1 ≤ 255 := by
        have small := (carry + size).toNat_lt
        rw [units_accumulate]
        omega
      have rest := recurse (accumulate size carry).2
      rw [units]
      omega

namespace Course

theorem not_past_trace (course : Course) (lines : List (List UInt8)) (pencil : Pencil)
    (carry : UInt16) :
    ∀ row ∈ (course.trace lines pencil carry).rows,
      course.heading.vertical.isPast Screen.height row.y = false :=
  (course.trace_spec (fun _ => True)
    (fun row => course.heading.vertical.isPast Screen.height row.y = false)
    (fun pens pencil _ onWay => ⟨trivial, by rwa [(course.y_row pens pencil).1]⟩)
    lines pencil carry trivial).2

theorem y_fits {course : Course} (inWorld : course.scene.InWorld) {lines : List (List UInt8)}
    {latches : Latches} {row : Row} (member : row ∈ (course.passTrace lines latches).rows) :
    FitsLong row.y ∧ FitsLong (row.y + course.heading.vertical.sign) := by
  have onWay := course.not_past_trace lines _ _ row member
  have onRun : row.y ∈ (course.passTrace lines latches).rows.map Row.y := List.mem_map_of_mem member
  rw [passTrace, (course.y_trace lines _ _).1, Direction.mem_run_iff] at onRun
  obtain ⟨offset, _, place⟩ := onRun
  have start := course.heading.vertical.seam_range course.first.vertical
  have lower := Word.signed_lower latches.vpos
  have upper := Word.signed_upper latches.vpos
  obtain ⟨_, above, below⟩ := inWorld
  simp only [pencil, line] at place
  cases way : course.heading.vertical with
  | forward =>
      rw [way, ← Bool.not_eq_true, Direction.isPast_forward_iff] at onWay
      rw [way] at place start
      simp only [Direction.sign, FitsLong, Screen.height] at *
      omega
  | backward =>
      rw [way, ← Bool.not_eq_true, Direction.isPast_backward_iff] at onWay
      rw [way] at place start
      simp only [Direction.sign, FitsLong] at *
      omega

/-- **Every column that a line can step over fits**, on the screen or far beyond
it. -/
theorem column_fits {course : Course} (inWorld : course.scene.InWorld) {line : List UInt8}
    (short : line.length ≤ 254) (hpos hsize : UInt16) {steps : Nat}
    (reached : steps ≤ units hsize
      (Line.pixels line course.control.depth course.control.literal).length
      course.heading.horizontal.bias) :
    FitsLong (course.column hpos + course.heading.horizontal.sign * steps) := by
  have pixels := Line.length_pixels_le line course.control.depth course.control.literal
  have far : steps ≤ 255 * (18 * (8 * 254)) := by
    calc steps
        ≤ units hsize _ course.heading.horizontal.bias := reached
      _ ≤ 255 * (Line.pixels line course.control.depth course.control.literal).length :=
          units_le _ _ _
      _ ≤ 255 * (18 * (8 * 254)) := by omega
  have start := course.heading.horizontal.seam_range course.first.horizontal
  have lower := Word.signed_lower hpos
  have upper := Word.signed_upper hpos
  obtain ⟨⟨left, right⟩, _⟩ := inWorld
  simp only [column, FitsLong]
  cases way : course.heading.horizontal <;> rw [way] at start <;>
    simp only [Direction.sign] <;> omega

end Course

structure Pass.InRange (course : Course) (pass : Pass) : Prop where
  /-- A line fits the buffer that it is read into. -/
  lineLength : ∀ line ∈ pass.lines, line.length < 255
  screenLines : ∀ row ∈ pass.rows,
    FitsLong row.y ∧ FitsLong (row.y + course.heading.vertical.sign)
  screenColumns : ∀ row ∈ pass.rows, ∀ line ∈ pass.lines, ∀ steps : Nat,
    steps ≤ units row.hsize (Line.pixels line course.control.depth course.control.literal).length
      course.heading.horizontal.bias →
    FitsLong (course.column row.hpos + course.heading.horizontal.sign * steps)
  /-- What is painted has its byte in the frame buffer. -/
  offsets : ∀ row ∈ pass.rows, ∀ placement ∈ row.placements,
    0 ≤ placement.x ∧ 0 ≤ placement.y
      ∧ placement.y.toNat * Screen.bytesPerLine + placement.x.toNat / 2
        < Screen.height * Screen.bytesPerLine
  /-- Reading the bits of a line never subtracts too much or shifts too far. -/
  requests : ∀ line ∈ pass.lines, ∀ decoder : Line.Decoder,
    (Line.Decoder.start line course.control.depth course.control.literal).Reaches decoder →
    decoder.depth ≤ 4 ∧ ∀ wanted ≤ decoder.bits.left, decoder.bits.Serves wanted

theorem Row.WellPlaced.offset_lt {row : Row} (placed : row.WellPlaced) {placement : Placement}
    (member : placement ∈ row.placements) :
    0 ≤ placement.x ∧ 0 ≤ placement.y
      ∧ placement.y.toNat * Screen.bytesPerLine + placement.x.toNat / 2
        < Screen.height * Screen.bytesPerLine := by
  obtain ⟨⟨left, right⟩, top, bottom⟩ := Screen.has_iff.1 (placed.onScreen placement member)
  simp only [Screen.width, Screen.height, Screen.bytesPerLine] at *
  omega

/-- A pass over lines of any kind is in range, from any latches. -/
theorem Course.inRange_pass {course : Course} (inWorld : course.scene.InWorld)
    {lines : List (List UInt8)} (short : ∀ line ∈ lines, line.length ≤ 254) (latches : Latches)
    (summary : PassSummary) :
    Pass.InRange course ⟨summary, lines, (course.passTrace lines latches).rows⟩ where
  lineLength := fun line member => Nat.lt_succ_of_le (short line member)
  screenLines := fun _ member => y_fits inWorld member
  screenColumns := fun row _ line member _ reached =>
    course.column_fits inWorld (short line member) row.hpos row.hsize reached
  offsets := fun row member _ painted =>
    (course.wellPlaced_trace lines _ _ row member).offset_lt painted
  requests := by
    intro line _ decoder reached
    obtain ⟨balanced, _, deep⟩ := reached.balanced
    exact ⟨deep, fun wanted enough => balanced.serves enough⟩

structure Drawing.InRange (job : Job) (drawing : Drawing) : Prop where
  consumed : drawing.cursor.consumed ≤ Cursor.limit + 254
  passes : ∀ pass ∈ drawing.passes, pass.InRange (job.course pass.summary.quadrant)

namespace Job

theorem inRange_perform (job : Job) (inWorld : job.scene.InWorld) (drawing : Drawing)
    {entry : Quadrant × Reading} (short : ∀ line ∈ entry.2.lines, line.length ≤ 254) :
    ∃ pass, (job.perform drawing entry).reversedPasses = pass :: drawing.reversedPasses
      ∧ pass.InRange (job.course pass.summary.quadrant) := by
  obtain ⟨quadrant, reading⟩ := entry
  cases draws : job.draws quadrant drawing.latches with
  | true =>
      rw [perform_of_draws reading draws]
      exact ⟨_, rfl, Course.inRange_pass inWorld short drawing.latches _⟩
  | false =>
      rw [perform_of_skips reading draws]
      exact ⟨_, rfl, by constructor <;> intro _ member <;> cases member⟩

/-- A performance moves the cursor over the bytes of its script at most. -/
theorem consumed_foldl_perform (job : Job) (script : List (Quadrant × Reading)) :
    ∀ drawing : Drawing, (script.foldl job.perform drawing).cursor.consumed
      ≤ drawing.cursor.consumed + scriptBytes script := by
  induction script with
  | nil => exact fun _ => Nat.le_refl _
  | cons entry rest recurse =>
      intro drawing
      have further := recurse (job.perform drawing entry)
      have passed := entry.2.ending.bytesPassed_le
      simp only [cursor_perform, Reading.cursorFrom, Cursor.consumed_advance] at further
      simp only [List.foldl_cons, scriptBytes, List.map_cons, List.sum_cons, Reading.bytes]
        at further ⊢
      omega

end Job

/-- **What drawing a sprite adds up fits**, whatever the sprite is and whatever
it paints over. -/
theorem inRange_draw {scene : Scene} (inWorld : scene.InWorld) (descriptor : Descriptor)
    (latches : Latches) (canvas : Canvas) :
    (draw scene descriptor latches canvas).InRange (Job.ofSprite scene descriptor latches) := by
  obtain ⟨script, valid, drawn, _, inRange⟩ := draw_spec scene descriptor latches canvas
    (fun _ => True)
    (fun pass _ =>
      pass.InRange ((Job.ofSprite scene descriptor latches).course pass.summary.quadrant))
    (fun drawing entry short _ =>
      ⟨trivial, (Job.ofSprite scene descriptor latches).inRange_perform inWorld drawing short⟩)
    trivial
  rw [drawn]
  constructor
  · have moved := (Job.ofSprite scene descriptor latches).consumed_foldl_perform script
      (Drawing.start descriptor.data latches canvas)
    exact Nat.le_trans moved (valid.bytes_le (Nat.zero_le _))
  · intro pass member
    obtain ⟨_, _, fits⟩ := exists_entry inRange member
    exact fits

end Sprite

end LynxSuzy
