import LynxSuzy.Sprite.Pass

/-!
Contract: what painting costs and where it can write.

Owns: the frame buffer as a window of addresses, the four ways in which one
pixel can come out, and what a row of pixels costs and leaves alone. What is
painted does not depend on the accesses counted so far.

Does **not** own: which pixels are painted (`Proofs.Coverage`).
-/

set_option autoImplicit false

namespace LynxSuzy

/-- Whether an address lies in the frame buffer, which wraps at the top of
memory. -/
def Screen.inFrame (base address : UInt16) : Bool :=
  decide ((address - base).toNat < Screen.height * Screen.bytesPerLine)

/-- **A position on the screen has its byte in the frame buffer.** -/
theorem Screen.inFrame_address (base : UInt16) {x y : Nat} (onLine : x < Screen.width)
    (onScreen : y < Screen.height) : Screen.inFrame base (Screen.address base x y) = true := by
  have offset : y * Screen.bytesPerLine + x / 2 < Screen.height * Screen.bytesPerLine := by
    simp only [Screen.width, Screen.height, Screen.bytesPerLine] at *
    omega
  have small : Screen.height * Screen.bytesPerLine ≤ 2 ^ 16 := by decide
  unfold Screen.inFrame Screen.address
  rw [UInt16.add_comm, UInt16.add_sub_cancel, UInt16.toNat_ofNat', Nat.mod_eq_of_lt (by omega)]
  exact decide_eq_true offset

theorem Screen.inFrame_of_has (base : UInt16) {x y : Int} (onScreen : Screen.has x y = true) :
    Screen.inFrame base (Screen.address base x.toNat y.toNat) = true := by
  obtain ⟨⟨_, right⟩, _, bottom⟩ := Screen.has_iff.1 onScreen
  exact Screen.inFrame_address base (by omega) (by omega)

namespace Memory

/-- Two memories that differ at most in the frame buffer. -/
def AgreeOutside (base : UInt16) (first second : Memory) : Prop :=
  ∀ address, Screen.inFrame base address = false → first.get address = second.get address

theorem AgreeOutside.refl (base : UInt16) (memory : Memory) :
    AgreeOutside base memory memory :=
  fun _ _ => rfl

theorem AgreeOutside.trans {base : UInt16} {first second third : Memory}
    (before : AgreeOutside base first second) (after : AgreeOutside base second third) :
    AgreeOutside base first third :=
  fun address outside => (before address outside).trans (after address outside)

theorem agreeOutside_set (base : UInt16) (memory : Memory) {address : UInt16} (value : UInt8)
    (inside : Screen.inFrame base address = true) :
    AgreeOutside base (memory.set address value) memory := by
  intro other outside
  apply get_set_ne
  rintro rfl
  rw [inside] at outside
  cases outside

end Memory

def Metered.charged (metered : Metered) (count : Nat) : Metered :=
  ⟨metered.memory, metered.accesses + count⟩

def Canvas.charged (canvas : Canvas) (count : Nat) : Canvas :=
  ⟨canvas.memory.charged count, canvas.collisions⟩

namespace Brush

def found (brush : Brush) (canvas : Canvas) (x y : Int) : UInt8 :=
  Byte.nibble (canvas.memory.memory.get (Screen.address brush.videoBase x.toNat y.toNat))
    (Screen.half x.toNat)

def stamp (brush : Brush) (memory : Memory) (x y : Int) (value : UInt8) : Memory :=
  let address := Screen.address brush.videoBase x.toNat y.toNat
  memory.set address (Byte.withNibble (memory.get address) value (Screen.half x.toNat))

section Outcomes

variable {brush : Brush} {canvas : Canvas} {x y : Int} {pen : UInt8}

/-- On the screen the brush paints what the display shows. -/
theorem address_of_has (onScreen : Screen.has x y = true) :
    brush.address x.toNat y.toNat = Screen.address brush.videoBase x.toNat y.toNat := by
  obtain ⟨⟨_, right⟩, _⟩ := Screen.has_iff.1 onScreen
  have narrow : Screen.width ≤ UInt16.size := by decide
  exact address_eq brush y.toNat (by omega)

theorem plot_of_outside (outside : Screen.has x y = false) :
    brush.plot canvas x y pen = (.clipped, canvas) := by
  simp [plot, outside]

theorem plot_of_transparent (onScreen : Screen.has x y = true)
    (clear : Byte.nibble pen .low = 0) :
    brush.plot canvas x y pen = (.transparent, canvas) := by
  simp [plot, onScreen, clear]

theorem plot_of_blocked (onScreen : Screen.has x y = true)
    (visible : Byte.nibble pen .low ≠ 0)
    (kept : brush.blend.combine (brush.found canvas x y) (Byte.nibble pen .low) = none) :
    brush.plot canvas x y pen = (.blocked, canvas.charged 1) := by
  unfold found at kept
  simp [plot, ink, address_of_has onScreen, half_eq, onScreen, visible, kept, Canvas.charged,
    Metered.charged]

theorem plot_of_drawn {value : UInt8} (onScreen : Screen.has x y = true)
    (visible : Byte.nibble pen .low ≠ 0)
    (mixed : brush.blend.combine (brush.found canvas x y) (Byte.nibble pen .low) = some value) :
    brush.plot canvas x y pen
      = (.drawn, ⟨⟨brush.stamp canvas.memory.memory x y value, canvas.memory.accesses + 2⟩,
          brush.collide canvas.collisions (brush.found canvas x y)⟩) := by
  unfold found at mixed ⊢
  simp [plot, ink, address_of_has onScreen, half_eq, onScreen, visible, mixed, stamp,
    Metered.write]

end Outcomes

/-- **One pixel comes out in one of four ways.** -/
theorem plot_cases (brush : Brush) (canvas : Canvas) (x y : Int) (pen : UInt8) :
    brush.plot canvas x y pen = (.clipped, canvas)
      ∨ brush.plot canvas x y pen = (.transparent, canvas)
      ∨ brush.plot canvas x y pen = (.blocked, canvas.charged 1)
      ∨ ∃ value, Screen.has x y = true
          ∧ brush.blend.combine (brush.found canvas x y) (Byte.nibble pen .low) = some value
          ∧ brush.plot canvas x y pen
            = (.drawn, ⟨⟨brush.stamp canvas.memory.memory x y value, canvas.memory.accesses + 2⟩,
                brush.collide canvas.collisions (brush.found canvas x y)⟩) := by
  cases onScreen : Screen.has x y with
  | false => exact Or.inl (plot_of_outside onScreen)
  | true =>
      by_cases clear : Byte.nibble pen .low = 0
      · exact Or.inr (Or.inl (plot_of_transparent onScreen clear))
      · cases mixed : brush.blend.combine (brush.found canvas x y) (Byte.nibble pen .low) with
        | none => exact Or.inr (Or.inr (Or.inl (plot_of_blocked onScreen clear mixed)))
        | some value =>
            exact Or.inr (Or.inr (Or.inr
              ⟨value, rfl, rfl, plot_of_drawn onScreen clear mixed⟩))

/-- What one pixel paints does not depend on the accesses before it. -/
theorem plot_charged (brush : Brush) (canvas : Canvas) (x y : Int) (pen : UInt8) (count : Nat) :
    brush.plot (canvas.charged count) x y pen
      = ((brush.plot canvas x y pen).1, (brush.plot canvas x y pen).2.charged count) := by
  have same : brush.found (canvas.charged count) x y = brush.found canvas x y := rfl
  cases onScreen : Screen.has x y with
  | false => rw [plot_of_outside onScreen, plot_of_outside onScreen]
  | true =>
      by_cases clear : Byte.nibble pen .low = 0
      · rw [plot_of_transparent onScreen clear, plot_of_transparent onScreen clear]
      · cases mixed : brush.blend.combine (brush.found canvas x y) (Byte.nibble pen .low) with
        | none =>
            rw [plot_of_blocked onScreen clear mixed,
              plot_of_blocked onScreen clear (same ▸ mixed)]
            simp only [Canvas.charged, Metered.charged, Nat.add_right_comm]
        | some value =>
            rw [plot_of_drawn onScreen clear mixed, plot_of_drawn onScreen clear (same ▸ mixed)]
            simp only [Canvas.charged, Metered.charged, found, Nat.add_right_comm]

theorem stamp_agreeOutside (brush : Brush) (memory : Memory) {x y : Int} (value : UInt8)
    (onScreen : Screen.has x y = true) :
    Memory.AgreeOutside brush.videoBase (brush.stamp memory x y value) memory := by
  apply Memory.agreeOutside_set
  exact Screen.inFrame_of_has _ onScreen

end Brush

namespace Sprite.Painted

def charged (painted : Painted) (count : Nat) : Painted :=
  { painted with canvas := painted.canvas.charged count }

theorem charged_charged (painted : Painted) (first second : Nat) :
    (painted.charged first).charged second = painted.charged (first + second) := by
  simp only [charged, Canvas.charged, Metered.charged, Nat.add_assoc]

/-- Accesses to the frame buffer so far: a drawn pixel takes two and a blocked
one takes one. -/
def cost (painted : Painted) : Nat :=
  2 * painted.drawn + painted.blocked

def addAll (brush : Brush) (painted : Painted) (placements : List Placement) : Painted :=
  placements.foldl (Painted.add brush) painted

theorem addRows_eq (brush : Brush) (painted : Painted) (rows : List Row) :
    painted.addRows brush rows = painted.addAll brush (rows.flatMap Row.placements) := by
  rw [addRows, addAll, List.foldl_flatMap]

theorem addAll_append (brush : Brush) (painted : Painted) (first second : List Placement) :
    painted.addAll brush (first ++ second) = (painted.addAll brush first).addAll brush second := by
  simp only [addAll, List.foldl_append]

theorem addRows_append (brush : Brush) (painted : Painted) (first second : List Row) :
    painted.addRows brush (first ++ second)
      = (painted.addRows brush first).addRows brush second := by
  simp only [addRows_eq, List.flatMap_append, addAll_append]

theorem add_charged (brush : Brush) (painted : Painted) (placement : Placement) (count : Nat) :
    (painted.charged count).add brush placement = (painted.add brush placement).charged count := by
  unfold add charged
  simp only [Brush.plot_charged]
  rcases brush.plot painted.canvas placement.x placement.y placement.pen with ⟨result, canvas⟩
  cases result <;> rfl

/-- **Painting does not look at the accesses counted so far.** -/
theorem addAll_charged (brush : Brush) (placements : List Placement) (count : Nat) :
    ∀ painted : Painted, (painted.charged count).addAll brush placements
      = (painted.addAll brush placements).charged count := by
  induction placements with
  | nil => exact fun _ => rfl
  | cons placement rest recurse =>
      intro painted
      simp only [addAll, List.foldl_cons, add_charged]
      exact recurse (painted.add brush placement)

theorem addRows_charged (brush : Brush) (painted : Painted) (rows : List Row) (count : Nat) :
    (painted.charged count).addRows brush rows = (painted.addRows brush rows).charged count := by
  rw [addRows_eq, addRows_eq, addAll_charged]

def plotAll (brush : Brush) (canvas : Canvas) (placements : List Placement) : Canvas :=
  placements.foldl
    (fun canvas placement => (brush.plot canvas placement.x placement.y placement.pen).2) canvas

theorem canvas_add (brush : Brush) (painted : Painted) (placement : Placement) :
    (painted.add brush placement).canvas
      = (brush.plot painted.canvas placement.x placement.y placement.pen).2 := by
  unfold add
  rcases brush.plot painted.canvas placement.x placement.y placement.pen with ⟨result, canvas⟩
  cases result <;> rfl

/-- Painting plots its pixels, whatever has been counted. -/
theorem canvas_addAll (brush : Brush) (placements : List Placement) :
    ∀ painted : Painted,
      (painted.addAll brush placements).canvas = plotAll brush painted.canvas placements := by
  induction placements with
  | nil => exact fun _ => rfl
  | cons placement rest recurse =>
      intro painted
      simp only [addAll, plotAll, List.foldl_cons, ← canvas_add]
      exact recurse (painted.add brush placement)

theorem plotAll_append (brush : Brush) (canvas : Canvas) (first second : List Placement) :
    plotAll brush canvas (first ++ second) = plotAll brush (plotAll brush canvas first) second := by
  simp only [plotAll, List.foldl_append]

theorem plotAll_charged (brush : Brush) (placements : List Placement) (count : Nat) :
    ∀ canvas : Canvas, plotAll brush (canvas.charged count) placements
      = (plotAll brush canvas placements).charged count := by
  induction placements with
  | nil => exact fun _ => rfl
  | cons placement rest recurse =>
      intro canvas
      simp only [plotAll, List.foldl_cons, Brush.plot_charged]
      exact recurse _

structure Step (brush : Brush) (before after : Painted) : Prop where
  accesses : after.canvas.memory.accesses + before.cost = before.canvas.memory.accesses + after.cost
  counted : after.drawn + after.blocked ≤ before.drawn + before.blocked + 1
  drawn : before.drawn ≤ after.drawn
  blocked : before.blocked ≤ after.blocked
  frame : Memory.AgreeOutside brush.videoBase after.canvas.memory.memory
    before.canvas.memory.memory

theorem add_step (brush : Brush) (painted : Painted) (placement : Placement) :
    Step brush painted (painted.add brush placement) := by
  unfold add
  rcases brush.plot_cases painted.canvas placement.x placement.y placement.pen with
    clipped | transparent | blocked | ⟨value, onScreen, _, drawn⟩
  · rw [clipped]
    exact ⟨rfl, Nat.le_succ _, Nat.le_refl _, Nat.le_refl _, Memory.AgreeOutside.refl _ _⟩
  · rw [transparent]
    exact ⟨rfl, Nat.le_succ _, Nat.le_refl _, Nat.le_refl _, Memory.AgreeOutside.refl _ _⟩
  · rw [blocked]
    refine ⟨?_, Nat.le_refl _, Nat.le_refl _, Nat.le_succ _, Memory.AgreeOutside.refl _ _⟩
    simp only [cost, Canvas.charged, Metered.charged]
    omega
  · rw [drawn]
    refine ⟨?_, ?_, Nat.le_succ _, Nat.le_refl _, brush.stamp_agreeOutside _ value onScreen⟩
    · simp only [cost]
      omega
    · simp only
      omega

/-- **What a row of pixels costs, counts and leaves alone.** -/
theorem addAll_spec (brush : Brush) (placements : List Placement) :
    ∀ painted : Painted,
      let after := painted.addAll brush placements
      after.canvas.memory.accesses + painted.cost = painted.canvas.memory.accesses + after.cost
        ∧ after.drawn + after.blocked ≤ painted.drawn + painted.blocked + placements.length
        ∧ Memory.AgreeOutside brush.videoBase after.canvas.memory.memory
            painted.canvas.memory.memory := by
  induction placements with
  | nil => exact fun painted => ⟨rfl, Nat.le_refl _, Memory.AgreeOutside.refl _ _⟩
  | cons placement rest recurse =>
      intro painted
      have step := add_step brush painted placement
      obtain ⟨accesses, counted, frame⟩ := recurse (painted.add brush placement)
      simp only [addAll, List.foldl_cons, List.length_cons]
      simp only [addAll] at accesses counted frame
      refine ⟨?_, ?_, frame.trans step.frame⟩
      · have first := step.accesses
        omega
      · have first := step.counted
        omega

/-- No more pixels are drawn or blocked than rows have. -/
theorem counted_addRows (brush : Brush) (canvas : Canvas) (rows : List Row) :
    let painted := (Painted.mk canvas 0 0).addRows brush rows
    painted.drawn + painted.blocked ≤ (rows.flatMap Row.placements).length := by
  intro painted
  have counted := (addAll_spec brush (rows.flatMap Row.placements) ⟨canvas, 0, 0⟩).2.1
  rw [← addRows_eq, Nat.add_zero, Nat.zero_add] at counted
  exact counted

end Sprite.Painted

end LynxSuzy
