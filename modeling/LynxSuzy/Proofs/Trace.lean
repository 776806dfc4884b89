import LynxSuzy.Proofs.Painting
import LynxSuzy.Proofs.Reading

/-!
Contract: the shape of a drawn quadrant, apart from the memory it is drawn in.

Owns: the screen lines that a row of data lines is drawn on, induction over
them, and the split of drawing a quadrant into its data, its shape and its paint. Drawing alternates
between reading a line and painting it. The result is the same as if all lines
had been read first, all screen lines settled next and painted last, with the
accesses added up.

A quadrant whose data lies outside the frame buffer is read as if nothing was
painted.

Does **not** own: where the screen lines have their pixels (`Proofs.Coverage`).
-/

set_option autoImplicit false

namespace LynxSuzy.Sprite

/-- The screen lines that some lines of data are drawn on, and the pencil and
the vertical accumulator behind them. -/
structure Trace where
  rows : List Row
  pencil : Pencil
  carry : UInt16

def Course.trace (course : Course) : List (List UInt8) → Pencil → UInt16 → Trace
  | [], pencil, carry => ⟨[], pencil, carry⟩
  | bytes :: lines, pencil, carry =>
      let height := accumulate pencil.latches.vsize carry
      let drawn := course.lineRows bytes height.1 pencil
      let rest := course.trace lines drawn.2 height.2
      ⟨drawn.1 ++ rest.rows, rest.pencil, rest.carry⟩

/-- The trace of a pass that begins with the given latches. -/
def Course.passTrace (course : Course) (lines : List (List UInt8)) (latches : Latches) : Trace :=
  course.trace lines (course.pencil latches) course.heading.vertical.bias

namespace Course

section Induction

variable (course : Course) (Keeps : Pencil → Prop) (Holds : Row → Prop)

theorem rows_spec (pens : List UInt8)
    (step : ∀ pencil : Pencil, Keeps pencil →
      course.heading.vertical.isPast Screen.height pencil.y = false →
      Keeps (course.row pens pencil).2 ∧ Holds (course.row pens pencil).1)
    (height : Nat) :
    ∀ pencil : Pencil, Keeps pencil →
      let drawn := course.rows pens height pencil
      Keeps drawn.2 ∧ ∀ row ∈ drawn.1, Holds row := by
  induction height with
  | zero =>
      intro pencil keeps
      exact ⟨keeps, fun _ member => by cases member⟩
  | succ height recurse =>
      intro pencil keeps
      rw [rows]
      split
      · exact ⟨keeps, fun _ member => by cases member⟩
      · rename_i onWay
        obtain ⟨kept, holds⟩ := step pencil keeps (Bool.eq_false_iff.2 onWay)
        obtain ⟨keptAll, holdsAll⟩ := recurse (course.row pens pencil).2 kept
        refine ⟨keptAll, ?_⟩
        intro row member
        rcases List.mem_cons.1 member with rfl | later
        · exact holds
        · exact holdsAll row later

/-- **What each row keeps holds at the end of a quadrant**, and what holds of
each row on its own holds of all of them. No row begins past the screen. -/
theorem trace_spec
    (step : ∀ (pens : List UInt8) (pencil : Pencil), Keeps pencil →
      course.heading.vertical.isPast Screen.height pencil.y = false →
      Keeps (course.row pens pencil).2 ∧ Holds (course.row pens pencil).1)
    (lines : List (List UInt8)) :
    ∀ (pencil : Pencil) (carry : UInt16), Keeps pencil →
      let trace := course.trace lines pencil carry
      Keeps trace.pencil ∧ ∀ row ∈ trace.rows, Holds row := by
  induction lines with
  | nil =>
      intro pencil carry keeps
      exact ⟨keeps, fun _ member => by cases member⟩
  | cons bytes lines recurse =>
      intro pencil carry keeps
      obtain ⟨kept, holds⟩ := course.rows_spec Keeps Holds (course.pens pencil.latches bytes)
        (step (course.pens pencil.latches bytes)) (accumulate pencil.latches.vsize carry).1
        pencil keeps
      obtain ⟨keptAll, holdsAll⟩ := recurse _ (accumulate pencil.latches.vsize carry).2 kept
      simp only [trace, lineRows_eq]
      refine ⟨keptAll, ?_⟩
      intro row member
      rcases List.mem_append.1 member with here | later
      · exact holds row here
      · exact holdsAll row later

end Induction

end Course

namespace Progress

/-- A pass after a reading has been drawn. -/
def after (course : Course) (brush : Brush) (progress : Progress) (reading : Reading) :
    Progress :=
  let trace := course.trace reading.lines progress.pencil progress.carry
  { painted := (progress.painted.addRows brush trace.rows).charged reading.bytes
    pencil := trace.pencil
    carry := trace.carry
    headers := progress.headers + reading.headers
    lines := reading.lines.reverse ++ progress.lines
    rows := trace.rows.reverse ++ progress.rows }

def withLine (course : Course) (brush : Brush) (progress : Progress) (line : List UInt8) :
    Progress :=
  let memory := progress.painted.canvas.memory
  (progress.withMemory ⟨memory.memory, memory.accesses + (line.length + 1)⟩).addLine course brush
    line

theorem after_end (course : Course) (brush : Brush) (progress : Progress) (ending : Ending) :
    progress.after course brush ⟨[], ending⟩
      = { progress with
          painted := progress.painted.charged ending.bytesRead
          headers := progress.headers + ending.bytesRead } := by
  simp only [after, Course.trace, Reading.bytes_end, Reading.headers_end, List.reverse_nil,
    List.nil_append, Painted.addRows, List.foldl_nil]

theorem after_cons (course : Course) (brush : Brush) (progress : Progress) (line : List UInt8)
    (reading : Reading) :
    (progress.withLine course brush line).after course brush reading
      = progress.after course brush (reading.cons line) := by
  obtain ⟨painted, pencil, carry, headers, lines, rows⟩ := progress
  have charge : painted.charged (line.length + 1)
      = { painted with canvas :=
          { painted.canvas with memory :=
            ⟨painted.canvas.memory.memory,
              painted.canvas.memory.accesses + (line.length + 1)⟩ } } := rfl
  simp only [withLine, withMemory, addLine, after, ← charge]
  simp only [Reading.cons, Course.trace, Painted.addRows_append, Painted.addRows_charged,
    Painted.charged_charged]
  congr 1
  · have counted := Reading.bytes_cons line reading
    rw [← counted]
    rfl
  · have counted := Reading.headers_cons line reading
    simp only [Reading.cons] at counted
    rw [counted]
    omega
  · simp only [List.reverse_cons, List.append_assoc, List.singleton_append]
  · simp only [List.reverse_append, List.append_assoc]

def memory (progress : Progress) : Memory :=
  progress.painted.canvas.memory.memory

/-- Reading a line with its header and adding it goes on with that line. -/
theorem addLine_of_read (course : Course) (brush : Brush) (progress : Progress)
    (address : UInt16) (count : Nat) :
    let head := progress.painted.canvas.memory.read address
    let bytes := head.2.readBytes (address + 1) count
    (progress.withMemory bytes.2).addLine course brush bytes.1
      = progress.withLine course brush (progress.memory.slice (address + 1) count) := by
  simp only [Metered.readBytes_eq, Metered.read_snd, withLine, memory, Memory.length_slice,
    Nat.add_assoc, Nat.add_comm 1]

theorem withLine_agreeOutside (course : Course) (brush : Brush) (progress : Progress)
    (line : List UInt8) :
    Memory.AgreeOutside brush.videoBase (progress.withLine course brush line).memory
      progress.memory := by
  obtain ⟨painted, pencil, carry, headers, lines, rows⟩ := progress
  simp only [memory, withLine, withMemory, addLine, Painted.addRows_eq]
  exact (Painted.addAll_spec brush _ _).2.2

end Progress

section Steps

variable {course : Course} {brush : Brush} {cursor : Cursor} {progress : Progress}

theorem drawLines_of_endOfSprite (begun : cursor.consumed < Cursor.limit)
    (found : Header.ofByte (progress.memory.get cursor.address) = .endOfSprite) :
    drawLines course brush cursor progress
      = ⟨progress.after course brush ⟨[], .sprite⟩, cursor, .sprite⟩ := by
  unfold Progress.memory at found
  rw [drawLines, if_pos begun]
  simp only [Metered.read_fst, found, Progress.after_end]
  rfl

theorem drawLines_of_endOfQuadrant (begun : cursor.consumed < Cursor.limit)
    (found : Header.ofByte (progress.memory.get cursor.address) = .endOfQuadrant) :
    drawLines course brush cursor progress
      = ⟨progress.after course brush ⟨[], .quadrant⟩, cursor.advance 1, .quadrant⟩ := by
  unfold Progress.memory at found
  rw [drawLines, if_pos begun]
  simp only [Metered.read_fst, found, Progress.after_end]
  rfl

theorem drawLines_of_line {count : Nat} (begun : cursor.consumed < Cursor.limit)
    (found : Header.ofByte (progress.memory.get cursor.address) = .line count) :
    drawLines course brush cursor progress
      = drawLines course brush (cursor.advance (count + 1))
          (progress.withLine course brush
            (progress.memory.slice (cursor.address + 1) count)) := by
  unfold Progress.memory at found
  rw [drawLines, if_pos begun]
  simp only [Metered.read_fst, Metered.read_snd, found, Metered.readBytes_eq, Progress.withLine,
    Progress.memory, Memory.length_slice, Nat.add_assoc, Nat.add_comm 1]

theorem drawLines_of_limit (spent : ¬ cursor.consumed < Cursor.limit) :
    drawLines course brush cursor progress
      = ⟨progress.after course brush ⟨[], .overrun⟩, cursor, .overrun⟩ := by
  rw [drawLines, if_neg spent, Progress.after_end]
  rfl

end Steps

/-- **Drawing a quadrant reads it, settles its shape and paints it**, and
keeps to the budget, whatever the memory holds while it is drawn. -/
theorem drawLines_eq (course : Course) (brush : Brush) (cursor : Cursor) (progress : Progress) :
    ∃ reading : Reading, reading.WithinBudget cursor
      ∧ drawLines course brush cursor progress
        = ⟨progress.after course brush reading, reading.cursorFrom cursor, reading.ending⟩ := by
  -- Along the drawing itself: memory can change under the cursor, so the reading
  -- is found line by line and not known before.
  induction cursor, progress using drawLines.induct course brush with
  | case1 cursor progress begun head found =>
      refine ⟨⟨[], .sprite⟩, Reading.withinBudget_end (by simpa using begun), ?_⟩
      rw [drawLines_of_endOfSprite begun found, Reading.cursorFrom_end]
      simp only [Ending.bytesPassed, Cursor.advance_zero]
  | case2 cursor progress begun head found =>
      refine ⟨⟨[], .quadrant⟩, Reading.withinBudget_end (by simpa using begun), ?_⟩
      rw [drawLines_of_endOfQuadrant begun found, Reading.cursorFrom_end]
      simp only [Ending.bytesPassed]
  | case3 cursor progress begun head count found bytes recurse =>
      have step : (progress.withMemory bytes.2).addLine course brush bytes.1
          = progress.withLine course brush (progress.memory.slice (cursor.address + 1) count) :=
        progress.addLine_of_read course brush cursor.address count
      have length : (progress.memory.slice (cursor.address + 1) count).length = count :=
        Memory.length_slice _ _ _
      rw [step] at recurse
      obtain ⟨rest, within, drawn⟩ := recurse
      refine ⟨rest.cons (progress.memory.slice (cursor.address + 1) count), ?_, ?_⟩
      · apply Reading.WithinBudget.cons begun
        · rw [length]
          exact Header.count_le found
        · rwa [length]
      · rw [drawLines_of_line begun found, drawn, Progress.after_cons, Reading.cursorFrom_cons,
          length, Reading.ending_cons]
  | case4 cursor progress spent =>
      refine ⟨⟨[], .overrun⟩, Reading.withinBudget_end (by simpa using Nat.le_of_not_lt spent), ?_⟩
      rw [drawLines_of_limit spent, Reading.cursorFrom_end]
      simp only [Ending.bytesPassed, Cursor.advance_zero]

/-- **A quadrant whose data lies outside the frame buffer is read as if nothing
was painted.** The memory may already differ from the one that is read, as long
as it differs in the frame buffer alone. -/
theorem drawLines_eq_readLines {brush : Brush} {origin : Memory} (course : Course)
    (cursor : Cursor) (progress : Progress)
    (agree : Memory.AgreeOutside brush.videoBase progress.memory origin)
    (apart : ∀ address, cursor.covers (readLines origin cursor).bytes address →
      Screen.inFrame brush.videoBase address = false) :
    drawLines course brush cursor progress
      = let reading := readLines origin cursor
        ⟨progress.after course brush reading, reading.cursorFrom cursor, reading.ending⟩ := by
  induction cursor using readLines.induct origin generalizing progress with
  | case1 cursor begun found =>
      rw [readLines_of_endOfSprite begun found] at apart ⊢
      have head := agree _ (apart _ (Cursor.covers_head (by decide)))
      rw [drawLines_of_endOfSprite begun (by rw [head, found])]
      simp only [Reading.cursorFrom_end, Ending.bytesPassed, Cursor.advance_zero]
  | case2 cursor begun found =>
      rw [readLines_of_endOfQuadrant begun found] at apart ⊢
      have head := agree _ (apart _ (Cursor.covers_head (by decide)))
      rw [drawLines_of_endOfQuadrant begun (by rw [head, found])]
      simp only [Reading.cursorFrom_end, Ending.bytesPassed]
  | case3 cursor begun count found recurse =>
      rw [readLines_of_line begun found] at apart ⊢
      rw [Reading.bytes_cons, Memory.length_slice] at apart
      have head := agree _ (apart _ (Cursor.covers_head (by omega)))
      have line : progress.memory.slice (cursor.address + 1) count
          = origin.slice (cursor.address + 1) count := by
        apply Memory.slice_congr
        exact fun offset inside => agree _ (apart _ (Cursor.covers_line inside))
      rw [drawLines_of_line begun (by rw [head, found]), line, recurse]
      · simp only [Progress.after_cons, Reading.cursorFrom_cons, Memory.length_slice,
          Reading.ending_cons]
      · -- What this line paints stays in the frame buffer.
        exact (Progress.withLine_agreeOutside course brush progress _).trans agree
      · exact fun address covered => apart address (Cursor.covers_of_advance covered)
  | case4 cursor spent =>
      rw [readLines_of_limit spent, drawLines_of_limit spent]
      simp only [Reading.cursorFrom_end, Ending.bytesPassed, Cursor.advance_zero]

end LynxSuzy.Sprite
