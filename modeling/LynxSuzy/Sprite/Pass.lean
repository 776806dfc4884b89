import LynxSuzy.Line.Decoder
import LynxSuzy.Sprite.Data
import LynxSuzy.Sprite.Row

/-!
Contract: drawing one quadrant of a sprite.

Owns: the loop that reads a quadrant's lines from memory and paints each before
it reads the next. The data is read from memory as it stands at that moment, so
a sprite that paints over its own data is drawn from what it painted.

Does **not** own: which quadrants are drawn (`Sprite.Drawing`).
-/

set_option autoImplicit false

namespace LynxSuzy.Sprite

structure Painted where
  canvas : Canvas
  /-- Pixels drawn. -/
  drawn : Nat
  /-- Pixels that what was there kept from being drawn. -/
  blocked : Nat

namespace Painted

def add (brush : Brush) (painted : Painted) (placement : Placement) : Painted :=
  match brush.plot painted.canvas placement.x placement.y placement.pen with
  | (.drawn, canvas) => ⟨canvas, painted.drawn + 1, painted.blocked⟩
  | (.blocked, canvas) => ⟨canvas, painted.drawn, painted.blocked + 1⟩
  | (.transparent, canvas) | (.clipped, canvas) => ⟨canvas, painted.drawn, painted.blocked⟩

def addRows (brush : Brush) (painted : Painted) (rows : List Row) : Painted :=
  rows.foldl (fun painted row => row.placements.foldl (Painted.add brush) painted) painted

end Painted

structure PassSummary where
  quadrant : Quadrant
  /-- The quadrant could not reach the screen and was passed over. -/
  superclipped : Bool
  /-- Headers read, the end marker included. -/
  headers : Nat
  /-- Bytes of the lines read. -/
  dataBytes : Nat
  drawn : Nat
  blocked : Nat
  deriving DecidableEq

/-- One pass over a quadrant's data. -/
structure Pass where
  summary : PassSummary
  /-- The lines of data that were drawn. -/
  lines : List (List UInt8)
  /-- The screen lines that were stepped over. -/
  rows : List Row

namespace Course

def pens (course : Course) (latches : Latches) (bytes : List UInt8) : List UInt8 :=
  (Line.pixels bytes course.control.depth course.control.literal).map latches.pen

/-- Draw a line of data. Past the screen it need not be decoded. -/
def lineRows (course : Course) (bytes : List UInt8) (height : Nat) (pencil : Pencil) :
    List Row × Pencil :=
  if course.heading.vertical.isPast Screen.height pencil.y then ([], pencil)
  else course.rows (course.pens pencil.latches bytes) height pencil

/-- A line that need not be decoded would not have been drawn. -/
theorem lineRows_eq (course : Course) (bytes : List UInt8) (height : Nat) (pencil : Pencil) :
    course.lineRows bytes height pencil
      = course.rows (course.pens pencil.latches bytes) height pencil := by
  unfold lineRows
  split
  · rename_i past
    exact (rows_of_isPast _ height past).symm
  · rfl

end Course

structure Progress where
  painted : Painted
  pencil : Pencil
  /-- The vertical accumulator. -/
  carry : UInt16
  headers : Nat
  /-- The lines of data so far, latest first. -/
  lines : List (List UInt8)
  /-- The screen lines so far, latest first. -/
  rows : List Row

namespace Progress

def start (course : Course) (canvas : Canvas) (latches : Latches) : Progress :=
  ⟨⟨canvas, 0, 0⟩, course.pencil latches, course.heading.vertical.bias, 0, [], []⟩

/-- The pass with another state of memory, one header further on. -/
def withMemory (progress : Progress) (memory : Metered) : Progress :=
  { progress with
    painted := { progress.painted with
      canvas := { progress.painted.canvas with memory := memory } }
    headers := progress.headers + 1 }

def addLine (course : Course) (brush : Brush) (progress : Progress) (bytes : List UInt8) :
    Progress :=
  match progress with
  | ⟨painted, pencil, carry, headers, lines, rows⟩ =>
      let height := accumulate pencil.latches.vsize carry
      let drawn := course.lineRows bytes height.1 pencil
      ⟨painted.addRows brush drawn.1, drawn.2, height.2, headers, bytes :: lines,
        drawn.1.reverse ++ rows⟩

def toPass (progress : Progress) (quadrant : Quadrant) : Pass where
  summary :=
    { quadrant := quadrant
      superclipped := false
      headers := progress.headers
      dataBytes := total (progress.lines.map List.length)
      drawn := progress.painted.drawn
      blocked := progress.painted.blocked }
  lines := progress.lines.reverse
  rows := progress.rows.reverse

end Progress

/-- Where drawing a quadrant came to a stop. -/
structure Drawn where
  progress : Progress
  cursor : Cursor
  ending : Ending

/-- Draw the rest of a quadrant. -/
def drawLines (course : Course) (brush : Brush) (cursor : Cursor) (progress : Progress) : Drawn :=
  if cursor.consumed < Cursor.limit then
    let head := progress.painted.canvas.memory.read cursor.address
    match Header.ofByte head.1 with
    | .endOfSprite => ⟨progress.withMemory head.2, cursor, .sprite⟩
    | .endOfQuadrant => ⟨progress.withMemory head.2, cursor.advance 1, .quadrant⟩
    | .line count =>
        let bytes := head.2.readBytes (cursor.address + 1) count
        drawLines course brush (cursor.advance (count + 1))
          ((progress.withMemory bytes.2).addLine course brush bytes.1)
  else ⟨progress, cursor, .overrun⟩
termination_by Cursor.limit - cursor.consumed
decreasing_by
  simp only [Cursor.consumed_advance]
  omega

end LynxSuzy.Sprite
