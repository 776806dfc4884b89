import LynxSuzy.Console
import LynxSuzy.Proofs.Nibbles

/-!
Contract: what painting shows on the display.

Owns: the pixels of a picture that is given by a function of the place; the
nibble that the display reads as the cell that the brush paints; and the frame
before and after one paint, place by place.

Does **not** own: what a whole sprite shows (`Proofs.Redrawing`).
-/

set_option autoImplicit false

namespace LynxSuzy

/-! ## Pictures -/

/-- A picture has the pixels that it is made of, and none outside. -/
theorem Picture.get?_ofFn {width height : Nat} (pixel : Nat → Nat → UInt32)
    (narrow : width < UInt32.size) (low : height < UInt32.size) (x y : UInt32) :
    (ofFn width height pixel).get? x y
      = if x.toNat < width ∧ y.toNat < height then some (pixel x.toNat y.toNat) else none := by
  have columns : (UInt32.ofNat width).toNat = width := UInt32.toNat_ofNat_of_lt' narrow
  have lines : (UInt32.ofNat height).toNat = height := UInt32.toNat_ofNat_of_lt' low
  simp only [get?, ofFn, UInt32.lt_iff_toNat_lt, columns, lines]
  by_cases inside : x.toNat < width ∧ y.toNat < height
  · have place : y.toNat * width + x.toNat < width * height := by
      calc y.toNat * width + x.toNat
          < y.toNat * width + width := Nat.add_lt_add_left inside.1 _
        _ = width * (y.toNat + 1) := by rw [Nat.mul_add, Nat.mul_one, Nat.mul_comm]
        _ ≤ width * height := Nat.mul_le_mul_left width inside.2
    have column : (y.toNat * width + x.toNat) % width = x.toNat := by
      rw [Nat.mul_comm, Nat.mul_add_mod, Nat.mod_eq_of_lt inside.1]
    have line : (y.toNat * width + x.toNat) / width = y.toNat := by
      rw [Nat.mul_comm, Nat.mul_add_div (by omega), Nat.div_eq_of_lt inside.1, Nat.add_zero]
    rw [if_pos inside, if_pos inside, Array.getElem?_ofFn, dif_pos place, column, line]
  · rw [if_neg inside, if_neg inside]

/-! ## One paint -/

/-- A pen mixes with what it finds unless it fills only what is empty. -/
theorem Blend.combine_eq (blend : Blend) (existing pen : UInt8) :
    blend.combine existing pen
      = if blend = .background → existing = 0 then
          some (if blend = .shadow then existing ^^^ pen else pen)
        else none := by
  cases blend with
  | normal => simp [combine]
  | background => simp [combine]
  | nonCollidable => simp [combine]
  | shadow => simp [combine]

namespace Brush

variable (brush : Brush) (canvas : Canvas) (x y : Int) (pen : UInt8)

/-- **A paint draws** a visible pen on the screen, unless it fills only what is
empty and finds something there. -/
theorem drawn_plot_iff :
    (brush.plot canvas x y pen).1 = .drawn
      ↔ Screen.has x y = true ∧ Byte.nibble pen .low ≠ 0
        ∧ (brush.blend = .background → brush.found canvas x y = 0) := by
  cases onScreen : Screen.has x y with
  | false => simp [plot_of_outside onScreen]
  | true =>
      by_cases clear : Byte.nibble pen .low = 0
      · simp [plot_of_transparent onScreen clear, clear]
      · have mixed := brush.blend.combine_eq (brush.found canvas x y) (Byte.nibble pen .low)
        by_cases free : brush.blend = .background → brush.found canvas x y = 0
        · rw [if_pos free] at mixed
          rw [plot_of_drawn onScreen clear mixed]
          exact iff_of_true rfl ⟨rfl, clear, free⟩
        · rw [if_neg free] at mixed
          rw [plot_of_blocked onScreen clear mixed]
          exact iff_of_false (nofun) fun drawn => free drawn.2.2

/-- Only a paint that draws writes. -/
theorem memory_plot_of_not_drawn (kept : (brush.plot canvas x y pen).1 ≠ .drawn) :
    (brush.plot canvas x y pen).2.memory.memory = canvas.memory.memory := by
  rcases brush.plot_cases canvas x y pen with same | same | same | ⟨value, _, _, same⟩
  · rw [same]
  · rw [same]
  · rw [same]
    rfl
  · rw [same] at kept
    exact absurd rfl kept

/-- A paint writes the byte of its position at most. -/
theorem get_plot_ne {address : UInt16}
    (other : address ≠ Screen.address brush.videoBase x.toNat y.toNat) :
    (brush.plot canvas x y pen).2.memory.memory.get address
      = canvas.memory.memory.get address := by
  rcases brush.plot_cases canvas x y pen with same | same | same | ⟨value, _, _, same⟩
  · rw [same]
  · rw [same]
  · rw [same]
    rfl
  · rw [same]
    exact Memory.get_set_ne _ _ other

/-- **What a paint leaves in a position.** -/
theorem found_plot_eq {column line : Int} (onScreen : Screen.has column line = true) :
    brush.found (brush.plot canvas x y pen).2 column line
      = if (brush.plot canvas x y pen).1 = .drawn ∧ (column, line) = (x, y) then
          if brush.blend = .shadow then brush.found canvas x y ^^^ Byte.nibble pen .low
          else Byte.nibble pen .low
        else brush.found canvas column line := by
  by_cases here : (column, line) = (x, y)
  · obtain ⟨rfl, rfl⟩ := Prod.mk.inj here
    simp only [brush.found_plot canvas column line pen onScreen, drawn_plot_iff, onScreen,
      Blend.result, Blend.combine_eq, and_true, true_and, if_true]
    by_cases clear : Byte.nibble pen .low = 0
    · simp [clear]
    · by_cases free : brush.blend = .background → brush.found canvas column line = 0
      · rw [if_neg clear, if_pos free, if_pos (And.intro clear free), Option.getD_some]
      · rw [if_neg clear, if_neg free, if_neg fun drawn => free drawn.2, Option.getD_none]
  · rw [brush.found_plot canvas x y pen onScreen, if_neg (Ne.symm here),
      if_neg (fun drawn => here drawn.2)]

end Brush

namespace Console

/-! ## The frame buffer on the display -/

/-- **The display shows the nibble that the brush finds** at each position of the
screen. -/
theorem get?_pictureIn (console : Console) (palette : Vector UInt32 16) {brush : Brush}
    (canvas : Canvas) (based : console.board.chip.registers.videoBase = brush.videoBase)
    (x y : UInt32) :
    ((console.withMemory canvas.memory.memory).pictureIn palette).get? x y
      = if Screen.has x.toNat y.toNat then
          some (colour palette (brush.found canvas x.toNat y.toNat))
        else none := by
  have inside : (Screen.has x.toNat y.toNat = true)
      = (x.toNat < Screen.width ∧ y.toNat < Screen.height) := by
    rw [Screen.has_iff]
    simp
  have cell : penAt canvas.memory.memory console.board.chip.registers.videoBase x.toNat y.toNat
      = brush.found canvas x.toNat y.toNat := by
    rw [based]
    rfl
  rw [pictureIn, Picture.get?_ofFn _ (by decide) (by decide)]
  simp only [inside, ← cell]
  rfl

/-- A paint changes one place of the picture at most. -/
theorem get?_pictureIn_plot (console : Console) (palette : Vector UInt32 16) {brush : Brush}
    (canvas : Canvas) (based : console.board.chip.registers.videoBase = brush.videoBase)
    (x y : Int) (pen : UInt8) (column line : UInt32) :
    ((console.withMemory (brush.plot canvas x y pen).2.memory.memory).pictureIn palette).get?
        column line
      = if (brush.plot canvas x y pen).1 = .drawn
          ∧ ((column.toNat : Int), (line.toNat : Int)) = (x, y) then
          some (colour palette
            (if brush.blend = .shadow then brush.found canvas x y ^^^ Byte.nibble pen .low
            else Byte.nibble pen .low))
        else ((console.withMemory canvas.memory.memory).pictureIn palette).get? column line := by
  rw [console.get?_pictureIn palette _ based, console.get?_pictureIn palette _ based]
  cases onScreen : Screen.has column.toNat line.toNat with
  | false =>
      rw [if_neg Bool.false_ne_true, if_neg Bool.false_ne_true, if_neg]
      -- What is drawn is on the screen, so it is not at this place.
      rintro ⟨drawn, here⟩
      obtain ⟨rfl, rfl⟩ := Prod.mk.inj here
      have visible := ((brush.drawn_plot_iff canvas _ _ pen).1 drawn).1
      rw [visible] at onScreen
      cases onScreen
  | true =>
      rw [if_pos rfl, if_pos rfl, brush.found_plot_eq canvas x y pen onScreen]
      split
      · rfl
      · rfl

/-- **A paint shows on the display and nowhere else.** A visible pen on the screen
is drawn, unless it fills only what is empty. If it is drawn, its position takes the
colour of what the pen makes with the nibble shown there before; every other place
of the picture stays as it is. If it is not drawn, nothing changes at all. In memory
no byte changes but the one that holds the position. -/
theorem display_shows_paint (console : Console) (palette : Vector UInt32 16) (blend : Blend)
    (collision : Option UInt8) (accesses : Nat) (collisions : Collisions) (x y : Int)
    (pen : UInt8) :
    let memory := console.board.memory
    let base := console.board.chip.registers.videoBase
    let painted := Brush.plot ⟨base, blend, collision⟩ ⟨⟨memory, accesses⟩, collisions⟩ x y pen
    let after := console.withMemory painted.2.memory.memory
    let shown := penAt memory base x.toNat y.toNat
    let visible := Byte.nibble pen .low
    (painted.1 = .drawn
        ↔ Screen.has x y = true ∧ visible ≠ 0 ∧ (blend = .background → shown = 0))
      ∧ (∀ column line : UInt32, (after.pictureIn palette).get? column line
          = if painted.1 = .drawn ∧ ((column.toNat : Int), (line.toNat : Int)) = (x, y) then
              some (colour palette (if blend = .shadow then shown ^^^ visible else visible))
            else (console.pictureIn palette).get? column line)
      ∧ (painted.1 ≠ .drawn → after = console)
      ∧ ∀ address ≠ Screen.address base x.toNat y.toNat,
          after.board.memory.get address = memory.get address := by
  intro memory base painted after shown visible
  let brush : Brush := ⟨base, blend, collision⟩
  let canvas : Canvas := ⟨⟨memory, accesses⟩, collisions⟩
  refine ⟨brush.drawn_plot_iff canvas x y pen,
    console.get?_pictureIn_plot palette canvas rfl x y pen, ?_,
    fun address other => brush.get_plot_ne canvas x y pen other⟩
  intro kept
  have same : painted.2.memory.memory = memory :=
    brush.memory_plot_of_not_drawn canvas x y pen kept
  change console.withMemory painted.2.memory.memory = console
  rw [same]
  rfl

end Console

end LynxSuzy
