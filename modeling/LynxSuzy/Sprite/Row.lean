import LynxSuzy.Sprite.Scene

/-!
Contract: the screen lines that one line of sprite data is drawn on.

Owns: scaling along both axes, stretch and tilt from one drawn line to the
next, and the list of positions and pens that each drawn line consists of.

Sizes carry eight fractional bits. An accumulator collects them, and as many
whole units as it holds are spent on each pixel or line; the fraction stays.
Going forward the accumulator starts at a half less one part, going backward at
zero.

Nothing here reads or writes memory: what a line paints is settled before any
of it is painted.
-/

set_option autoImplicit false

namespace LynxSuzy.Sprite

/-- What an accumulator starts from. -/
def Direction.bias : Direction → UInt16
  | .forward => 0x007F
  | .backward => 0

/-- Add a size to an accumulator: the whole units, and the fraction that is
carried on. The sum is a word and wraps. -/
def accumulate (size carry : UInt16) : Nat × UInt16 :=
  let sum := carry + size
  ((sum >>> 8).toNat, sum &&& (0x00FF : UInt16))

/-- A pen and the screen position it is painted on. -/
structure Placement where
  x : Int
  y : Int
  pen : UInt8
  deriving DecidableEq, Repr

/-- The coordinates that a run of units covers, from its start on. -/
def Direction.run (direction : Direction) : Nat → Int → List Int
  | 0, _ => []
  | count + 1, start => start :: direction.run count (start + direction.sign)

/-- The visible part of a line of pens: each pen covers as many columns as the
accumulator yields. Once the line is past the screen nothing more of it is
visible. -/
def spread (direction : Direction) (size : UInt16) (y : Int) :
    List UInt8 → Int → UInt16 → List Placement
  | [], _, _ => []
  | pen :: pens, x, carry =>
      if direction.isPast Screen.width x then []
      else
        let columns := accumulate size carry
        ((direction.run columns.1 x).filter Screen.hasColumn).map (Placement.mk · y pen)
          ++ spread direction size y pens (x + direction.sign * columns.1) columns.2

structure Row where
  /-- Screen line, which need not be on the screen. -/
  y : Int
  /-- The horizontal position while the line is drawn. -/
  hpos : UInt16
  /-- The width of a pixel while the line is drawn. -/
  hsize : UInt16
  placements : List Placement

/-- How one pass of a sprite is drawn. -/
structure Course where
  scene : Scene
  control : Control
  /-- The quadrant that is actually drawn. -/
  heading : Quadrant
  /-- The quadrant that the sprite's first pass draws. -/
  first : Quadrant

/-- What moves from line to line of a pass. -/
structure Pencil where
  latches : Latches
  /-- The screen line to draw next. -/
  y : Int
  /-- Tilt collected since the position was last moved by it. -/
  lean : UInt16

namespace Pencil

/-- Move the position by the whole units of the collected tilt. -/
def settle (pencil : Pencil) : Pencil :=
  { pencil with
    latches := { pencil.latches with
      hpos := pencil.latches.hpos + UInt16.ofInt (Word.signed pencil.lean / 256) }
    lean := pencil.lean &&& (0x00FF : UInt16) }

end Pencil

namespace Latches

def stretched (latches : Latches) (alsoVertical : Bool) : Latches :=
  { latches with
    hsize := latches.hsize + latches.stretch
    vsize := if alsoVertical then latches.vsize + latches.stretch else latches.vsize }

end Latches

namespace Course

/-- The screen column that a line starts in. -/
def column (course : Course) (hpos : UInt16) : Int :=
  Word.signed hpos - course.scene.left
    + course.heading.horizontal.seam course.first.horizontal

/-- The screen line that the pass starts in. -/
def line (course : Course) (vpos : UInt16) : Int :=
  Word.signed vpos - course.scene.top
    + course.heading.vertical.seam course.first.vertical

def pencil (course : Course) (latches : Latches) : Pencil :=
  ⟨latches, course.line latches.vpos, 0⟩

/-- Go on to the next line: stretch and tilt apply between lines, as far as the
descriptor carries them. -/
def advance (course : Course) (pencil : Pencil) : Pencil where
  latches :=
    if course.control.reload.hasStretch then
      pencil.latches.stretched course.scene.verticalStretch
    else pencil.latches
  y := pencil.y + course.heading.vertical.sign
  lean :=
    if course.control.reload.hasTilt then pencil.lean + pencil.latches.tilt else pencil.lean

/-- What the line at the pencil paints. -/
def place (course : Course) (pens : List UInt8) (pencil : Pencil) : List Placement :=
  spread course.heading.horizontal pencil.latches.hsize pencil.y pens
    (course.column pencil.latches.hpos) course.heading.horizontal.bias

/-- Draw one line. The collected tilt moves the position only where the line is
on the screen. -/
def row (course : Course) (pens : List UInt8) (pencil : Pencil) : Row × Pencil :=
  if Screen.hasLine pencil.y then
    let settled := pencil.settle
    (⟨settled.y, settled.latches.hpos, settled.latches.hsize, course.place pens settled⟩,
      course.advance settled)
  else
    (⟨pencil.y, pencil.latches.hpos, pencil.latches.hsize, []⟩, course.advance pencil)

/-- Draw a line of data on as many lines as it is high. Past the screen the
rest of it is given up, and stretch and tilt with it. -/
def rows (course : Course) (pens : List UInt8) : Nat → Pencil → List Row × Pencil
  | 0, pencil => ([], pencil)
  | count + 1, pencil =>
      if course.heading.vertical.isPast Screen.height pencil.y then ([], pencil)
      else
        let first := course.row pens pencil
        let rest := course.rows pens count first.2
        (first.1 :: rest.1, rest.2)

/-- Past the screen nothing is drawn, however high the line is. -/
theorem rows_of_isPast {course : Course} {pencil : Pencil} (pens : List UInt8) (count : Nat)
    (past : course.heading.vertical.isPast Screen.height pencil.y = true) :
    course.rows pens count pencil = ([], pencil) := by
  cases count with
  | zero => rfl
  | succ count => simp [rows, past]

end Course

end LynxSuzy.Sprite
