import LynxSuzy.Sprite.Pass

/-!
Contract: drawing one sprite.

Owns: the four passes over a sprite's data, which of them are drawn, and the
account of what the sprite did.

An origin on the screen draws every quadrant. From an origin off the screen a
quadrant that cannot reach it is superclipped: its data is passed over.
-/

set_option autoImplicit false

namespace LynxSuzy.Sprite

/-- What a sprite came to, in numbers. -/
structure Summary where
  passes : List PassSummary
  /-- Some position on the screen was visited. -/
  everOnScreen : Bool
  /-- The data was given up before it ended. -/
  overrun : Bool
  deriving DecidableEq

namespace Summary

def pixels (summary : Summary) (quadrant : Quadrant) : Nat :=
  total ((summary.passes.filter fun pass => pass.quadrant = quadrant).map PassSummary.drawn)

def totalPixels (summary : Summary) : Nat :=
  total (summary.passes.map PassSummary.drawn)

def rendered (summary : Summary) (quadrant : Quadrant) : Bool :=
  summary.passes.any fun pass => pass.quadrant = quadrant && !pass.superclipped

/-- The quadrants passed over, in order. -/
def superclipped (summary : Summary) : List Quadrant :=
  (summary.passes.filter PassSummary.superclipped).map PassSummary.quadrant

end Summary

structure Drawing where
  canvas : Canvas
  latches : Latches
  cursor : Cursor
  /-- The passes so far, latest first. -/
  reversedPasses : List Pass
  overrun : Bool

namespace Drawing

def passes (drawing : Drawing) : List Pass :=
  drawing.reversedPasses.reverse

/-- Every position and pen that was painted, in order. -/
def placements (drawing : Drawing) : List Placement :=
  drawing.passes.flatMap fun pass => pass.rows.flatMap Row.placements

def summary (drawing : Drawing) : Summary where
  passes := drawing.passes.map Pass.summary
  everOnScreen := drawing.reversedPasses.any fun pass =>
    pass.rows.any fun row => !row.placements.isEmpty
  overrun := drawing.overrun

end Drawing

/-- What stays fixed over the passes of one sprite. -/
structure Job where
  scene : Scene
  control : Control
  /-- The origin is off the screen, so each pass must show that it can reach it. -/
  superclip : Bool

namespace Job

/-- The way a quadrant's pass is drawn. -/
def course (job : Job) (quadrant : Quadrant) : Course where
  scene := job.scene
  control := job.control
  heading := quadrant.flipped job.control
  first := job.control.startQuadrant.flipped job.control

def brush (job : Job) : Brush :=
  ⟨job.scene.videoBase, job.control.kind.blend, job.scene.collision⟩

/-- Whether a quadrant is drawn rather than passed over. -/
def draws (job : Job) (quadrant : Quadrant) (latches : Latches) : Bool :=
  !job.superclip || job.scene.reachedBy (quadrant.flipped job.control) latches.hpos latches.vpos

def draw (job : Job) (quadrant : Quadrant) (drawing : Drawing) : Drawing × Ending :=
  match drawing with
  | ⟨canvas, latches, cursor, passes, overrun⟩ =>
      let course := job.course quadrant
      let drawn := drawLines course job.brush cursor (Progress.start course canvas latches)
      (⟨drawn.progress.painted.canvas, drawn.progress.pencil.latches, drawn.cursor,
          drawn.progress.toPass quadrant :: passes, overrun⟩,
        drawn.ending)

def skip (quadrant : Quadrant) (drawing : Drawing) : Drawing × Ending :=
  match drawing with
  | ⟨canvas, latches, cursor, passes, overrun⟩ =>
      let skipped := skipLines canvas.memory cursor 0
      (⟨⟨skipped.memory, canvas.collisions⟩, latches, skipped.cursor,
          ⟨⟨quadrant, true, skipped.headers, 0, 0, 0⟩, [], []⟩ :: passes, overrun⟩,
        skipped.ending)

def pass (job : Job) (quadrant : Quadrant) (drawing : Drawing) : Drawing × Ending :=
  if job.draws quadrant drawing.latches then job.draw quadrant drawing
  else skip quadrant drawing

/-- At most so many passes, as long as the data goes on. -/
def run (job : Job) : Nat → Quadrant → Drawing → Drawing
  | 0, _, drawing => drawing
  | count + 1, quadrant, drawing =>
      match job.pass quadrant drawing with
      | (drawing, .quadrant) => job.run count quadrant.next drawing
      | (drawing, .sprite) => drawing
      | (drawing, .overrun) => { drawing with overrun := true }

end Job

/-- Draw a sprite whose descriptor has just been read into the latches. -/
def draw (scene : Scene) (descriptor : Descriptor) (latches : Latches) (canvas : Canvas) :
    Drawing :=
  let control := descriptor.control
  let job : Job := ⟨scene, control, !scene.shows latches.hpos latches.vpos⟩
  job.run 4 control.startQuadrant ⟨canvas, latches, Cursor.start descriptor.data, [], false⟩

end LynxSuzy.Sprite
