import LynxSuzy.Proofs.Fields
import LynxSuzy.Proofs.Passes
import LynxSuzy.Proofs.Redrawing

/-!
Contract: a sprite that is turned over draws the reflection of its picture in its origin.

Owns: turning a descriptor over along either axis, which changes the way each pass is drawn
and nothing else; lists of pixels that are reflections of each other; and the law for pixels
that are whole columns wide and lines that are whole lines high. Only those cover the same
number of columns or lines whatever the accumulator starts from, and it starts from a half
going forward and from zero going backward.

Does **not** own: sizes with a fraction.
-/

set_option autoImplicit false

namespace LynxSuzy

/-! ## Turning over -/

/-- Flipping bits of a byte turns round what a mask of one bit asks for. -/
theorem Byte.flagged_xor (byte flips mask : UInt8) {bit : Nat} (single : mask.toNat = 2 ^ bit) :
    flagged (byte ^^^ flips) mask = (flagged byte mask ^^ flagged flips mask) := by
  rw [flagged_eq_testBit _ _ single, flagged_eq_testBit _ _ single, flagged_eq_testBit _ _ single,
    UInt8.toNat_xor, Nat.testBit_xor]

namespace Sprite

namespace Direction

theorem sign_opposite (direction : Direction) : direction.opposite.sign = -direction.sign := by
  cases direction <;> rfl

theorem seam_opposite (direction first : Direction) :
    direction.opposite.seam first.opposite = -direction.seam first := by
  cases direction <;> cases first <;> rfl

@[simp] theorem flippedIf_false (direction : Direction) : direction.flippedIf false = direction :=
  rfl

@[simp] theorem flippedIf_true (direction : Direction) :
    direction.flippedIf true = direction.opposite := rfl

theorem flippedIf_xor (direction : Direction) (flip turn : Bool) :
    direction.flippedIf (flip ^^ turn) = (direction.flippedIf flip).flippedIf turn := by
  cases direction <;> cases flip <;> cases turn <;> rfl

end Direction

def Control.turned (control : Control) (across down : Bool) : Control :=
  { control with
    flipHorizontal := control.flipHorizontal ^^ across
    flipVertical := control.flipVertical ^^ down }

def turnBits (across down : Bool) : UInt8 :=
  Byte.bitIf across 0x20 ^^^ Byte.bitIf down 0x10

def Descriptor.turned (descriptor : Descriptor) (across down : Bool) : Descriptor :=
  { descriptor with control0 := descriptor.control0 ^^^ turnBits across down }

/-- **The flip bits turn a sprite over**, and nothing else of it depends on them. -/
theorem control_turned (descriptor : Descriptor) (across down : Bool) :
    (descriptor.turned across down).control = descriptor.control.turned across down := by
  have kind (byte : UInt8) : Kind.ofBits (byte ^^^ turnBits across down) = Kind.ofBits byte := by
    have low : (byte ^^^ turnBits across down) &&& 0x07 = byte &&& 0x07 := by
      rw [← UInt8.toNat_inj, UInt8.toNat_and, UInt8.toNat_and, UInt8.toNat_xor,
        Nat.and_xor_distrib_right]
      cases across <;> cases down <;> exact Nat.xor_zero _
    rw [Kind.ofBits, low, Kind.ofBits]
  have depth (byte : UInt8) : (byte ^^^ turnBits across down) >>> 6 = byte >>> 6 := by
    rw [UInt8.shiftRight_xor]
    cases across <;> cases down <;> exact UInt8.xor_zero
  have acrossBit : Byte.flagged (turnBits across down) 0x20 = across := by
    cases across <;> cases down <;> decide
  have downBit : Byte.flagged (turnBits across down) 0x10 = down := by
    cases across <;> cases down <;> decide
  unfold Descriptor.control Descriptor.turned Control.decode Control.turned
  simp only [kind, depth, Byte.flagged_xor _ _ 0x20 (rfl : _ = 2 ^ 5),
    Byte.flagged_xor _ _ 0x10 (rfl : _ = 2 ^ 4), acrossBit, downBit]

def Quadrant.turned (quadrant : Quadrant) (across down : Bool) : Quadrant :=
  ofDirections (quadrant.horizontal.flippedIf across) (quadrant.vertical.flippedIf down)

@[simp] theorem Quadrant.horizontal_turned (quadrant : Quadrant) (across down : Bool) :
    (quadrant.turned across down).horizontal = quadrant.horizontal.flippedIf across :=
  horizontal_ofDirections _ _

@[simp] theorem Quadrant.vertical_turned (quadrant : Quadrant) (across down : Bool) :
    (quadrant.turned across down).vertical = quadrant.vertical.flippedIf down :=
  vertical_ofDirections _ _

theorem Quadrant.flipped_turned (quadrant : Quadrant) (control : Control) (across down : Bool) :
    quadrant.flipped (control.turned across down)
      = (quadrant.flipped control).turned across down := by
  simp only [flipped, turned, Control.turned, Direction.flippedIf_xor, horizontal_ofDirections,
    vertical_ofDirections]

/-- The course that the pass of a turned sprite takes. -/
def Course.turned (course : Course) (across down : Bool) : Course where
  scene := course.scene
  control := course.control.turned across down
  heading := course.heading.turned across down
  first := course.first.turned across down

def Job.turned (job : Job) (across down : Bool) : Job :=
  { job with control := job.control.turned across down }

theorem Job.course_turned (job : Job) (across down : Bool) (quadrant : Quadrant) :
    (job.turned across down).course quadrant = (job.course quadrant).turned across down := by
  simp only [course, turned, Course.turned, Quadrant.flipped_turned]
  rfl

theorem Job.ofSprite_turned (scene : Scene) (descriptor : Descriptor) (latches : Latches)
    (across down : Bool) :
    ofSprite scene (descriptor.turned across down) latches
      = (ofSprite scene descriptor latches).turned across down := by
  simp only [ofSprite, turned, control_turned]

/-! ## Reflections -/

/-- The pens of the one list at a position are those of the other at its image, as long as
both are on the screen. -/
def Reflects (column line : Int → Int) (first second : List Placement) : Prop :=
  ∀ x y : Int, Screen.has x y = true → Screen.has (column x) (line y) = true →
    pensAt second (column x) (line y) = pensAt first x y

section Reflections

variable {column line : Int → Int} {first second third fourth : List Placement}

theorem Reflects.nil : Reflects column line [] [] :=
  fun _ _ _ _ => rfl

theorem Reflects.append (before : Reflects column line first second)
    (behind : Reflects column line third fourth) :
    Reflects column line (first ++ third) (second ++ fourth) := by
  intro x y here there
  rw [pensAt_append, pensAt_append, before x y here there, behind x y here there]

/-- **Lists that visit each position once** are reflections if the one has a pixel where the
other has its image. -/
theorem reflects_of_once (once : (first.map Placement.position).Nodup)
    (onceToo : (second.map Placement.position).Nodup)
    (image : ∀ x y pen, Screen.has x y = true → Screen.has (column x) (line y) = true →
      (⟨column x, line y, pen⟩ ∈ second ↔ ⟨x, y, pen⟩ ∈ first)) :
    Reflects column line first second := by
  intro x y here there
  by_cases visited : (x, y) ∈ first.map Placement.position
  · obtain ⟨⟨_, _, pen⟩, member, same⟩ := List.mem_map.1 visited
    obtain ⟨rfl, rfl⟩ := Prod.mk.inj same
    rw [pensAt_of_mem once member, pensAt_of_mem onceToo ((image _ _ pen here there).2 member)]
  · rw [pensAt_of_notMem visited, pensAt_of_notMem]
    intro again
    obtain ⟨⟨_, _, pen⟩, member, same⟩ := List.mem_map.1 again
    obtain ⟨rfl, rfl⟩ := Prod.mk.inj same
    exact visited (List.mem_map.2 ⟨_, (image x y pen here there).1 member, rfl⟩)

end Reflections

/-! ## Whole units -/

/-- **Units of a whole size** cover the same coordinates whatever fraction is carried. -/
theorem units_of_whole {size : UInt16} (whole : 256 ∣ size.toNat) (count : Nat) {carry : UInt16}
    (fraction : carry.toNat < 256) : units size count carry = count * (size.toNat / 256) := by
  have bound := size.toNat_lt
  have narrow : size ≤ 0xFF00 := by
    have top : (0xFF00 : UInt16).toNat = 0xFF00 := rfl
    rw [UInt16.le_iff_toNat_le, top]
    omega
  obtain ⟨parts, total⟩ := whole
  rw [units_eq narrow count fraction, total, Nat.mul_left_comm,
    Nat.mul_add_div (by decide), Nat.div_eq_of_lt fraction, Nat.add_zero,
    Nat.mul_div_cancel_left _ (by decide)]

theorem Direction.image_iff (direction first : Direction) (origin coordinate : Int)
    (offset : Nat) :
    2 * origin - coordinate
        = origin + direction.opposite.seam first.opposite + direction.opposite.sign * offset
      ↔ coordinate = origin + direction.seam first + direction.sign * offset := by
  rw [seam_opposite, sign_opposite, Int.neg_mul]
  omega

/-! ## Turned across -/

/-- A sprite's latches on the way through its passes, with the column of the origin where it
was and a pixel so many whole columns wide. -/
structure Reload.Across (reload : Reload) (latches now : Latches) : Prop where
  hpos : now.hpos = latches.hpos
  upright : reload.hasTilt = true → now.tilt = 0
  size : 256 ∣ now.hsize.toNat
  stretch : reload.hasStretch = true → 256 ∣ now.stretch.toNat

namespace Course

variable {course : Course} {latches : Latches} {pencil : Pencil}

/-- A pencil on its way through a pass that is to be turned across. -/
structure Across (course : Course) (latches : Latches) (pencil : Pencil) : Prop where
  level : pencil.lean = 0
  latches : course.control.reload.Across latches pencil.latches

theorem Across.advance (keeps : course.Across latches pencil) :
    course.Across latches (course.advance pencil) := by
  obtain ⟨level, hpos, upright, size, stretch⟩ := keeps
  constructor
  · show (if course.control.reload.hasTilt then pencil.lean + pencil.latches.tilt
      else pencil.lean) = 0
    cases tilted : course.control.reload.hasTilt with
    | false => exact level
    | true => rw [if_pos rfl, level, upright tilted, UInt16.add_zero]
  · unfold Course.advance
    cases stretched : course.control.reload.hasStretch with
    | false => exact ⟨hpos, upright, size, stretch⟩
    | true =>
        refine ⟨hpos, upright, ?_, stretch⟩
        -- The word that a sum wraps at is whole as well.
        have growth := stretch stretched
        show 256 ∣ (pencil.latches.hsize + pencil.latches.stretch).toNat
        rw [UInt16.toNat_add]
        omega

theorem advance_turned_across (course : Course) (pencil : Pencil) :
    (course.turned true false).advance pencil = course.advance pencil := by
  simp only [advance, turned, Quadrant.vertical_turned, Direction.flippedIf_false]
  rfl

/-- **A row turned across** is the reflection of the row. -/
theorem reflects_row (keeps : course.Across latches pencil) (pens : List UInt8) :
    Reflects (2 * (Word.signed latches.hpos - course.scene.left) - ·) id
      (course.row pens pencil).1.placements
      ((course.turned true false).row pens pencil).1.placements := by
  apply reflects_of_once
  · exact (course.wellPlaced_row pens pencil).once
  · exact ((course.turned true false).wellPlaced_row pens pencil).once
  · intro x y pen here there
    rw [Screen.has, Bool.and_eq_true] at here there
    rw [row_of_level _ pens keeps.level, row_of_level _ pens keeps.level]
    cases visible : Screen.hasLine pencil.y with
    | false => simp
    | true =>
        simp only [if_true, place, mem_spread_iff, units_of_whole keeps.latches.size _ (bias_lt _)]
        simp only [turned, Quadrant.horizontal_turned, Direction.flippedIf_true, column,
          keeps.latches.hpos, here.1, there.1, true_and, id, Direction.image_iff]

/-- Rows, and those of the course turned across: their reflection, which leaves the same
pencil. -/
structure TurnsAcross (course : Course) (latches : Latches) (drawn other : List Row × Pencil) :
    Prop where
  kept : course.Across latches drawn.2
  pencil : other.2 = drawn.2
  reflects : Reflects (2 * (Word.signed latches.hpos - course.scene.left) - ·) id
    (drawn.1.flatMap Row.placements) (other.1.flatMap Row.placements)

theorem turnsAcross_rows (pens : List UInt8) (height : Nat) :
    ∀ {pencil : Pencil}, course.Across latches pencil →
      course.TurnsAcross latches (course.rows pens height pencil)
        ((course.turned true false).rows pens height pencil) := by
  induction height with
  | zero => exact fun keeps => ⟨keeps, rfl, Reflects.nil⟩
  | succ height recurse =>
      intro pencil keeps
      have vertical : (course.turned true false).heading.vertical = course.heading.vertical :=
        Quadrant.vertical_turned _ _ _
      have next : ((course.turned true false).row pens pencil).2 = (course.row pens pencil).2 := by
        rw [row_of_level _ pens keeps.level, row_of_level _ pens keeps.level,
          advance_turned_across]
      have kept : course.Across latches (course.row pens pencil).2 := by
        rw [row_of_level _ pens keeps.level]
        exact keeps.advance
      have rest := recurse kept
      rw [rows, rows, vertical]
      split
      · exact ⟨keeps, rfl, Reflects.nil⟩
      · simp only [next]
        exact ⟨rest.kept, rest.pencil, (reflects_row keeps pens).append rest.reflects⟩

/-- **A quadrant turned across** is the reflection of the quadrant. -/
theorem turnsAcross_trace (lines : List (List UInt8)) :
    ∀ {pencil : Pencil} (carry : UInt16), course.Across latches pencil →
      let trace := course.trace lines pencil carry
      let other := (course.turned true false).trace lines pencil carry
      course.TurnsAcross latches (trace.rows, trace.pencil) (other.rows, other.pencil) := by
  induction lines with
  | nil => exact fun _ keeps => ⟨keeps, rfl, Reflects.nil⟩
  | cons bytes lines recurse =>
      intro pencil carry keeps
      have first := turnsAcross_rows (course.pens pencil.latches bytes)
        (accumulate pencil.latches.vsize carry).1 keeps
      have rest := recurse (accumulate pencil.latches.vsize carry).2 first.kept
      have pens : (course.turned true false).pens pencil.latches bytes
          = course.pens pencil.latches bytes := rfl
      simp only [trace, lineRows_eq, pens, first.pencil]
      refine ⟨rest.kept, rest.pencil, ?_⟩
      simp only [List.flatMap_append]
      exact first.reflects.append rest.reflects

/-- A pass, and that of the course turned over, which leaves the same latches and paints the
reflection. What is to be known of the latches is known of those that are left. -/
structure Mirrors (course : Course) (across down : Bool) (column line : Int → Int)
    (Keeps : Latches → Prop) (lines : List (List UInt8)) (now : Latches) : Prop where
  kept : Keeps (course.passTrace lines now).pencil.latches
  latches : ((course.turned across down).passTrace lines now).pencil.latches
    = (course.passTrace lines now).pencil.latches
  pixels : Reflects column line ((course.passTrace lines now).rows.flatMap Row.placements)
    (((course.turned across down).passTrace lines now).rows.flatMap Row.placements)

theorem mirrors_across (lines : List (List UInt8)) {now : Latches}
    (keeps : course.control.reload.Across latches now) :
    course.Mirrors true false (2 * (Word.signed latches.hpos - course.scene.left) - ·) id
      (course.control.reload.Across latches) lines now := by
  have begun : (course.turned true false).passTrace lines now
      = (course.turned true false).trace lines (course.pencil now)
          course.heading.vertical.bias := by
    simp only [passTrace, pencil, line, turned, Quadrant.vertical_turned,
      Direction.flippedIf_false]
  have whole : course.Across latches (course.pencil now) := ⟨rfl, keeps⟩
  have turns := turnsAcross_trace lines course.heading.vertical.bias whole
  rw [← begun] at turns
  exact ⟨turns.kept.latches, congrArg Pencil.latches turns.pencil, turns.reflects⟩

/-! ## Turned over downward -/

theorem shows_turned_down (course : Course) :
    (course.turned false true).Shows = course.Shows := by
  unfold Shows column turned
  simp only [Quadrant.horizontal_turned, Direction.flippedIf_false]

/-- **A quadrant of whole lines turned downward** is the reflection of the quadrant. -/
theorem mirrors_down (plain : course.Plain) (whole : 256 ∣ latches.vsize.toNat)
    (lines : List (List UInt8)) :
    course.Mirrors false true id (2 * (Word.signed latches.vpos - course.scene.top) - ·)
      (· = latches) lines latches := by
  have plainToo : (course.turned false true).Plain := ⟨plain.noStretch, plain.noTilt⟩
  refine ⟨latches_pass_of_plain plain lines latches, ?_, ?_⟩
  · rw [latches_pass_of_plain plain, latches_pass_of_plain plainToo]
  · apply reflects_of_once
    · exact course.nodup_positions_trace _ _ _
    · exact (course.turned false true).nodup_positions_trace _ _ _
    · intro x y pen here there
      rw [Screen.has, Bool.and_eq_true] at here there
      rw [passTrace, passTrace, mem_trace_iff plain lines rfl, mem_trace_iff plainToo lines rfl]
      simp only [pencil, units_of_whole whole _ (bias_lt _), shows_turned_down]
      simp only [turned, Quadrant.vertical_turned, Direction.flippedIf_true, line, here.2, there.2,
        true_and, id, Direction.image_iff]
      -- What a line shows does not depend on the screen line that it is drawn on.
      rfl

end Course

/-! ## Sprites turned over -/

/-- Two drawings that have come to the same latches, the one with the reflection of what the
other has painted. -/
structure Drawing.Mirrors (column line : Int → Int) (first second : Drawing) : Prop where
  latches : second.latches = first.latches
  pixels : Reflects column line first.placements second.placements

namespace Job

variable {job : Job} {column line : Int → Int} {across down : Bool}

theorem placements_perform {drawing : Drawing} {quadrant : Quadrant} (reading : Reading)
    (draws : job.draws quadrant drawing.latches = true) :
    (job.perform drawing (quadrant, reading)).placements
      = drawing.placements
          ++ ((job.course quadrant).passTrace reading.lines drawing.latches).rows.flatMap
            Row.placements := by
  rw [perform_of_draws reading draws]
  simp only [Drawing.placements, Drawing.passes, drawReading, List.reverse_cons,
    List.flatMap_append, List.flatMap_cons, List.flatMap_nil, List.append_nil]

variable {Keeps : Latches → Prop}
  (onScreen : job.superclip = false)
  (step : ∀ quadrant lines now, Keeps now →
    (job.course quadrant).Mirrors across down column line Keeps lines now)

include onScreen step

theorem mirrors_perform {first second : Drawing} (mirrors : first.Mirrors column line second)
    (keeps : Keeps first.latches) (entry : Quadrant × Reading) :
    Keeps (job.perform first entry).latches
      ∧ (job.perform first entry).Mirrors column line
        ((job.turned across down).perform second entry) := by
  obtain ⟨quadrant, reading⟩ := entry
  obtain ⟨kept, latches, pixels⟩ := step quadrant reading.lines first.latches keeps
  have draws (latches : Latches) : job.draws quadrant latches = true := by
    rw [draws, onScreen]
    rfl
  have drawsToo (latches : Latches) : (job.turned across down).draws quadrant latches = true := by
    rw [Job.draws, turned, onScreen]
    rfl
  refine ⟨?_, ?_, ?_⟩
  · rw [perform_of_draws reading (draws _)]
    exact kept
  · rw [perform_of_draws reading (draws _), perform_of_draws reading (drawsToo _)]
    simp only [drawReading, course_turned, mirrors.latches]
    exact latches
  · rw [placements_perform reading (draws _), placements_perform reading (drawsToo _),
      course_turned, mirrors.latches]
    exact mirrors.pixels.append pixels

/-- **A whole script performed by the job turned over** paints the reflection. -/
theorem mirrors_foldl (script : List (Quadrant × Reading)) :
    ∀ {first second : Drawing}, first.Mirrors column line second → Keeps first.latches →
      (script.foldl job.perform first).Mirrors column line
        (script.foldl (job.turned across down).perform second) := by
  induction script with
  | nil => exact fun mirrors _ => mirrors
  | cons entry rest recurse =>
      intro first second mirrors keeps
      obtain ⟨kept, next⟩ := mirrors_perform onScreen step mirrors keeps entry
      exact recurse next kept

end Job

def drawnNibble (scene : Scene) (latches : Latches) (canvas : Canvas) (sprite : Descriptor)
    (x y : Int) : UInt8 :=
  Byte.nibble
    ((draw scene sprite latches canvas).canvas.memory.memory.get
      (Screen.address scene.videoBase x.toNat y.toNat))
    (Screen.half x.toNat)

section Sprites

variable {scene : Scene} {descriptor : Descriptor} {latches : Latches} {canvas : Canvas}
  {column line : Int → Int} {across down : Bool}

/-- A sprite that is on the screen paints the reflection when it is turned over, if each of
its passes does. -/
theorem reflects_draw {Keeps : Latches → Prop}
    (apart : DataApart scene.videoBase (Cursor.start descriptor.data)
      (scriptBytes (readSprite canvas.memory.memory descriptor.data
        descriptor.control.startQuadrant)))
    (shown : scene.shows latches.hpos latches.vpos = true) (begun : Keeps latches)
    (step : ∀ quadrant lines now, Keeps now →
      ((Job.ofSprite scene descriptor latches).course quadrant).Mirrors across down column line
        Keeps lines now) :
    Reflects column line (draw scene descriptor latches canvas).placements
      (draw scene (descriptor.turned across down) latches canvas).placements := by
  have onScreen : (Job.ofSprite scene descriptor latches).superclip = false := by
    rw [Job.ofSprite, shown]
    rfl
  -- Both go through the same script, as it depends on neither flip.
  have start : (descriptor.turned across down).control.startQuadrant
      = descriptor.control.startQuadrant := by
    rw [control_turned]
    rfl
  have data : (descriptor.turned across down).data = descriptor.data := rfl
  have first := draw_eq_performAll latches apart
  rw [← data, ← start] at apart
  have second := draw_eq_performAll latches apart
  rw [data, start, Job.ofSprite_turned] at second
  rw [first, second]
  have empty : (Drawing.start descriptor.data latches canvas).Mirrors column line
      (Drawing.start descriptor.data latches canvas) := ⟨rfl, Reflects.nil⟩
  exact (Job.mirrors_foldl onScreen step _ empty begun).pixels

/-- On an empty screen a position holds what its pens come to. -/
theorem drawnNibble_eq
    (blank : ∀ address, Screen.inFrame scene.videoBase address = true →
      canvas.memory.memory.get address = 0)
    (sprite : Descriptor) {x y : Int} (onScreen : Screen.has x y = true) :
    drawnNibble scene latches canvas sprite x y
      = (pensAt (draw scene sprite latches canvas).placements x y).foldl
          sprite.control.kind.blend.result 0 := by
  let brush := (Job.ofSprite scene sprite latches).brush
  have empty : brush.found canvas x y = 0 := by
    have zero := blank _ (Screen.inFrame_of_has scene.videoBase onScreen)
    show Byte.nibble (canvas.memory.memory.get (Screen.address scene.videoBase x.toNat y.toNat)) _
      = 0
    rw [zero]
    cases Screen.half x.toNat <;> rfl
  calc drawnNibble scene latches canvas sprite x y
      = (pensAt (draw scene sprite latches canvas).placements x y).foldl brush.blend.result
          (brush.found canvas x y) := found_draw onScreen
    _ = (pensAt (draw scene sprite latches canvas).placements x y).foldl
          sprite.control.kind.blend.result 0 := by
        rw [empty]
        rfl

theorem drawnNibble_turned
    (blank : ∀ address, Screen.inFrame scene.videoBase address = true →
      canvas.memory.memory.get address = 0)
    (reflects : Reflects column line (draw scene descriptor latches canvas).placements
      (draw scene (descriptor.turned across down) latches canvas).placements)
    {x y : Int} (here : Screen.has x y = true) (there : Screen.has (column x) (line y) = true) :
    drawnNibble scene latches canvas (descriptor.turned across down) (column x) (line y)
      = drawnNibble scene latches canvas descriptor x y := by
  rw [drawnNibble_eq blank _ here, drawnNibble_eq blank _ there, reflects x y here there,
    control_turned]
  rfl

/-- **The flips reflect the picture in the origin.** On a screen that is empty and apart from
its data, a sprite that does not lean and whose origin is on the screen draws the same
nibbles, turned round its origin, when its horizontal flip is toggled, as long as its pixels
are so many whole columns wide and, if it is stretched, grow by whole columns. The same holds
of the vertical flip as long as the sprite is not stretched and its lines are so many whole
lines high. -/
theorem flips_reflect_the_picture
    (blank : ∀ address, Screen.inFrame scene.videoBase address = true →
      canvas.memory.memory.get address = 0)
    (apart : DataApart scene.videoBase (Cursor.start descriptor.data)
      (scriptBytes (readSprite canvas.memory.memory descriptor.data
        descriptor.control.startQuadrant)))
    (shown : scene.shows latches.hpos latches.vpos = true)
    (upright : descriptor.control.reload.hasTilt = true → latches.tilt = 0) :
    let nibble := drawnNibble scene latches canvas
    let reload := descriptor.control.reload
    let originX := Word.signed latches.hpos - scene.left
    let originY := Word.signed latches.vpos - scene.top
    (256 ∣ latches.hsize.toNat → (reload.hasStretch = true → 256 ∣ latches.stretch.toNat) →
      ∀ d y : Int, Screen.has (originX + d) y = true → Screen.has (originX - d) y = true →
        nibble (descriptor.turned true false) (originX - d) y
          = nibble descriptor (originX + d) y)
      ∧ (256 ∣ latches.vsize.toNat → reload.hasStretch = false →
        ∀ x d : Int, Screen.has x (originY + d) = true → Screen.has x (originY - d) = true →
          nibble (descriptor.turned false true) x (originY - d)
            = nibble descriptor x (originY + d)) := by
  intro nibble reload originX originY
  constructor
  · intro size stretch d y here there
    have image : 2 * originX - (originX + d) = originX - d := by omega
    have begun : reload.Across latches latches := ⟨rfl, upright, size, stretch⟩
    have reflects := @reflects_draw scene descriptor latches canvas
      (2 * originX - ·) id true false _ apart shown begun
      (fun _ lines _ keeps => Course.mirrors_across lines keeps)
    rw [← image] at there ⊢
    exact drawnNibble_turned blank reflects here there
  · intro size unstretched x d here there
    have image : 2 * originY - (originY + d) = originY - d := by omega
    have untilted : reload.hasTilt = false := by
      -- No descriptor carries a tilt without a stretch.
      revert unstretched
      cases reload <;> decide
    have reflects := @reflects_draw scene descriptor latches canvas
      id (2 * originY - ·) false true (· = latches) apart shown rfl
      (fun quadrant lines now same => by
        subst same
        exact Course.mirrors_down ⟨unstretched, untilted⟩ size lines)
    rw [← image] at there ⊢
    exact drawnNibble_turned blank reflects here there

end Sprites

theorem sampleMemory_blank {address : UInt16} (inside : Screen.inFrame 0xC000 address = true) :
    sampleMemory.get address = 0 := by
  have within : (address - 0xC000).toNat < 102 * 80 := of_decide_eq_true inside
  have behind : 7 ≤ (address - 0x3000).toNat := by
    have base : (0xC000 : UInt16).toNat = 0xC000 := rfl
    have data : (0x3000 : UInt16).toNat = 0x3000 := rfl
    have bound := address.toNat_lt
    rw [UInt16.toNat_sub, base] at within
    rw [UInt16.toNat_sub, data]
    omega
  rw [sampleMemory, Memory.get_load _ _ _ _ (by decide), List.getElem?_eq_none behind,
    Memory.get_filled]
  rfl

/-- Two columns to the right of its origin the sample has its third pixel, and two columns to
the left when it is turned across. -/
theorem sample_turned_over :
    let scene : Scene := ⟨0, 0, 0xC000, false, none⟩
    let latches : Latches := { Latches.initial with hpos := 80, vpos := 50 }
    let canvas : Canvas := ⟨Metered.fresh sampleMemory, Collisions.empty⟩
    let nibble := drawnNibble scene latches canvas
    (∀ address, Screen.inFrame 0xC000 address = true → sampleMemory.get address = 0)
      ∧ DataApart 0xC000 (Cursor.start 0x3000)
        (scriptBytes (readSprite sampleMemory 0x3000 sampleSprite.control.startQuadrant))
      ∧ scene.shows 80 50 = true ∧ sampleSprite.control.reload.hasTilt = false
      ∧ nibble sampleSprite 82 50 = 3 ∧ nibble (sampleSprite.turned true false) 78 50 = 3
      ∧ nibble sampleSprite 80 49 = 1 ∧ nibble (sampleSprite.turned false true) 80 51 = 1 := by
  intro scene latches canvas nibble
  have blank : ∀ address, Screen.inFrame 0xC000 address = true → sampleMemory.get address = 0 :=
    fun _ => sampleMemory_blank
  have apart := sample_apart slice_sampleMemory sampleSprite.control.startQuadrant
  have shown : scene.shows 80 50 = true := by decide
  have untilted : sampleSprite.control.reload.hasTilt = false := by decide
  have passes := passes_sample (rfl : sampleSprite.data = 0x3000) (by decide) latches
  have pens := @drawnNibble_eq scene latches canvas blank sampleSprite
  have third : nibble sampleSprite 82 50 = 3 := by
    rw [Drawing.placements, passes] at pens
    exact (pens (by decide)).trans (by decide +kernel)
  have above : nibble sampleSprite 80 49 = 1 := by
    rw [Drawing.placements, passes] at pens
    exact (pens (by decide)).trans (by decide +kernel)
  obtain ⟨across, down⟩ := @flips_reflect_the_picture scene sampleSprite latches canvas blank
    apart shown
    (fun tilted => by rw [untilted] at tilted; cases tilted)
  have originX : Word.signed latches.hpos - scene.left = 80 := by decide
  have originY : Word.signed latches.vpos - scene.top = 50 := by decide
  rw [originX] at across
  rw [originY] at down
  have turnedAcross : nibble (sampleSprite.turned true false) 78 50 = nibble sampleSprite 82 50 :=
    across (by decide) (by decide) 2 50 (by decide) (by decide)
  have turnedDown := down (by decide) (by decide) 80 (-1) (by decide) (by decide)
  rw [Int.sub_neg, ← Int.sub_eq_add_neg] at turnedDown
  exact ⟨blank, apart, shown, untilted, third, turnedAcross.trans third, above,
    turnedDown.trans above⟩

end Sprite

end LynxSuzy
