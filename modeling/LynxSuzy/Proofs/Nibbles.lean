import LynxSuzy.Proofs.Coverage
import Mathlib.Tactic.IntervalCases

/-!
Contract: painting as each position of the screen sees it.

Owns: the nibble that holds a position as its own cell, apart from the one that
shares its byte; what plotting a row of pixels comes to at one position, which
is a fold of the pens that are plotted there; and what that fold does when it is
repeated. The frame buffer is settled by its nibbles.

Does **not** own: which pens are plotted where (`Proofs.Coverage`).
-/

set_option autoImplicit false

namespace LynxSuzy

/-! ## Nibbles of a byte -/

namespace Byte

theorem toNat_nibble_low (byte : UInt8) : (nibble byte .low).toNat = byte.toNat % 16 := by
  rw [nibble, UInt8.toNat_and]
  exact Nat.and_two_pow_sub_one_eq_mod byte.toNat 4

theorem toNat_nibble_high (byte : UInt8) : (nibble byte .high).toNat = byte.toNat / 16 := by
  rw [nibble, UInt8.toNat_shiftRight]
  exact Nat.shiftRight_eq_div_pow byte.toNat 4

@[simp] theorem nibble_nibble (byte : UInt8) (half : Half) :
    nibble (nibble byte half) .low = nibble byte half := by
  apply UInt8.toBitVec_inj.1
  cases half <;> simp only [nibble] <;> ext bit bound <;> interval_cases bit <;> simp

theorem nibble_xor (first second : UInt8) :
    nibble (first ^^^ second) .low = nibble first .low ^^^ nibble second .low := by
  apply UInt8.toBitVec_inj.1
  simp only [nibble]
  ext bit bound
  interval_cases bit <;> simp

theorem nibble_withNibble (byte value : UInt8) (half : Half) :
    nibble (withNibble byte value half) half = nibble value .low := by
  apply UInt8.toBitVec_inj.1
  cases half <;> simp only [nibble, withNibble] <;> ext bit bound <;> interval_cases bit <;> simp

/-- Replacing one nibble spares the other, as long as the value is a nibble. -/
theorem nibble_withNibble_ne (byte : UInt8) {value : UInt8} {half other : Half}
    (small : nibble value .low = value) (apart : other ≠ half) :
    nibble (withNibble byte value half) other = nibble byte other := by
  rw [← small]
  apply UInt8.toBitVec_inj.1
  cases half <;> cases other <;> simp only [nibble, withNibble, ne_eq, not_true] at apart ⊢
  · ext bit bound
    interval_cases bit <;> simp
  · ext bit bound
    interval_cases bit <;> simp

theorem eq_of_nibbles {first second : UInt8} (low : nibble first .low = nibble second .low)
    (high : nibble first .high = nibble second .high) : first = second := by
  have lower := congrArg UInt8.toNat low
  have upper := congrArg UInt8.toNat high
  rw [toNat_nibble_low, toNat_nibble_low] at lower
  rw [toNat_nibble_high, toNat_nibble_high] at upper
  apply UInt8.toNat_inj.1
  omega

end Byte

/-! ## Cells of the frame buffer -/

namespace Screen

/-- **Each position has a nibble of its own.** -/
theorem position_eq {base : UInt16} {x y x' y' : Int} (visible : has x y = true)
    (visible' : has x' y' = true)
    (byte : address base x.toNat y.toNat = address base x'.toNat y'.toNat)
    (nibble : half x.toNat = half x'.toNat) : (x, y) = (x', y') := by
  obtain ⟨⟨left, right⟩, top, bottom⟩ := has_iff.1 visible
  obtain ⟨⟨left', right'⟩, top', bottom'⟩ := has_iff.1 visible'
  have offset := congrArg UInt16.toNat ((UInt16.add_right_inj _).1 byte)
  have parity : x.toNat % 2 = x'.toNat % 2 := by
    unfold half at nibble
    split at nibble <;> split at nibble <;> first | omega | cases nibble
  simp only [width, height, bytesPerLine] at *
  rw [UInt16.toNat_ofNat', UInt16.toNat_ofNat', Nat.mod_eq_of_lt (by omega),
    Nat.mod_eq_of_lt (by omega)] at offset
  have line : y = y' := by omega
  have column : x = x' := by omega
  rw [line, column]

/-- Each byte of the frame buffer holds two positions, the one on the even column
in its high nibble. -/
theorem exists_positions {base target : UInt16} (inside : inFrame base target = true) :
    ∃ x y : Nat, has x y = true ∧ has (x + 1 : Nat) y = true
      ∧ address base x y = target ∧ address base (x + 1) y = target
      ∧ half x = .high ∧ half (x + 1) = .low := by
  have within : (target - base).toNat < height * bytesPerLine := of_decide_eq_true inside
  simp only [height, bytesPerLine] at within
  have place : base + UInt16.ofNat (target - base).toNat = target := by
    rw [UInt16.ofNat_toNat, UInt16.add_comm, UInt16.sub_add_cancel]
  refine ⟨(target - base).toNat % 80 * 2, (target - base).toNat / 80, ?_, ?_, ?_, ?_, ?_, ?_⟩
  · rw [has_iff, width, height]
    omega
  · rw [has_iff, width, height]
    omega
  · rw [address, bytesPerLine]
    convert place using 3
    omega
  · rw [address, bytesPerLine]
    convert place using 3
    omega
  · exact if_pos (by omega)
  · exact if_neg (by omega)

end Screen

/-! ## Pens over nibbles -/

namespace Blend

def result (blend : Blend) (existing pen : UInt8) : UInt8 :=
  if pen = 0 then existing else (blend.combine existing pen).getD existing

/-- A pen that covers what it finds leaves itself, unless it is transparent. -/
theorem result_of_covering {blend : Blend} (covering : ∀ existing pen, blend.combine existing pen = some pen)
    (existing pen : UInt8) : blend.result existing pen = if pen = 0 then existing else pen := by
  simp only [result, covering, Option.getD_some]

theorem result_background (existing pen : UInt8) :
    background.result existing pen = if existing = 0 then pen else existing := by
  unfold result combine
  by_cases clear : pen = 0
  · by_cases empty : existing = 0
    · simp [clear, empty]
    · simp [clear, empty]
  · by_cases empty : existing = 0
    · simp [clear, empty]
    · simp [clear, empty]

theorem result_shadow (existing pen : UInt8) : shadow.result existing pen = existing ^^^ pen := by
  unfold result combine
  by_cases clear : pen = 0
  · simp [clear]
  · simp [clear]

/-- **The last visible pen wins** where pens cover what they find, so that what
was there before shows only if none is visible. -/
theorem foldl_result_of_covering {blend : Blend}
    (covering : ∀ existing pen, blend.combine existing pen = some pen) (pens : List UInt8) :
    (∀ existing, pens.foldl blend.result existing = existing)
      ∨ ∃ result, ∀ existing, pens.foldl blend.result existing = result := by
  induction pens with
  | nil => exact Or.inl fun _ => rfl
  | cons pen pens recurse =>
      simp only [List.foldl_cons, result_of_covering covering]
      rcases recurse with shows | ⟨result, hides⟩
      · by_cases clear : pen = 0
        · left
          intro existing
          rw [if_pos clear, shows]
        · right
          refine ⟨pen, ?_⟩
          intro existing
          rw [if_neg clear, shows]
      · exact Or.inr ⟨result, fun existing => hides _⟩

/-- **The first visible pen wins** where pens fill only what is empty. -/
theorem foldl_result_background (pens : List UInt8) {existing : UInt8} (filled : existing ≠ 0) :
    pens.foldl background.result existing = existing := by
  induction pens with
  | nil => rfl
  | cons pen pens recurse =>
      rw [List.foldl_cons, result_background, if_neg filled, recurse]

theorem foldl_result_shadow (pens : List UInt8) (existing : UInt8) :
    pens.foldl shadow.result existing = existing ^^^ pens.foldl shadow.result 0 := by
  induction pens generalizing existing with
  | nil => exact UInt8.xor_zero.symm
  | cons pen pens recurse =>
      simp only [List.foldl_cons, result_shadow]
      rw [recurse, recurse (0 ^^^ pen), UInt8.zero_xor, UInt8.xor_assoc]

/-- **Plotting the same pens again** changes nothing, except that shadows take
back what they have done. -/
theorem foldl_result_twice (blend : Blend) (pens : List UInt8) (existing : UInt8) :
    pens.foldl blend.result (pens.foldl blend.result existing)
      = if blend = .shadow then existing else pens.foldl blend.result existing := by
  have covered (covering : ∀ existing pen, blend.combine existing pen = some pen) :
      pens.foldl blend.result (pens.foldl blend.result existing) = pens.foldl blend.result existing := by
    rcases foldl_result_of_covering covering pens with shows | ⟨result, hides⟩
    · rw [shows, shows]
    · rw [hides, hides]
  cases blend with
  | normal => exact covered fun _ _ => rfl
  | nonCollidable => exact covered fun _ _ => rfl
  | background =>
      rw [if_neg (by decide)]
      by_cases empty : pens.foldl background.result existing = 0
      · -- Nothing was visible, and what was there is empty as well.
        have before : existing = 0 := by
          by_contra filled
          rw [foldl_result_background pens filled] at empty
          exact filled empty
        rw [before] at empty ⊢
        rw [empty, empty]
      · exact foldl_result_background pens empty
  | shadow =>
      rw [if_pos rfl, foldl_result_shadow pens, foldl_result_shadow pens existing, UInt8.xor_assoc,
        UInt8.xor_self, UInt8.xor_zero]

end Blend

/-! ## What is plotted at one position -/

namespace Brush

variable (brush : Brush) (canvas : Canvas)

/-- A pen that combines with a nibble gives a nibble. -/
theorem nibble_of_combine {blend : Blend} {byte pen value : UInt8} {half : Half}
    (mixed : blend.combine (Byte.nibble byte half) (Byte.nibble pen .low) = some value) :
    Byte.nibble value .low = value := by
  cases blend with
  | normal =>
      obtain rfl := Option.some.inj mixed
      exact Byte.nibble_nibble pen .low
  | nonCollidable =>
      obtain rfl := Option.some.inj mixed
      exact Byte.nibble_nibble pen .low
  | background =>
      simp only [Blend.combine] at mixed
      split at mixed
      · obtain rfl := Option.some.inj mixed
        exact Byte.nibble_nibble pen .low
      · cases mixed
  | shadow =>
      obtain rfl := Option.some.inj mixed
      rw [Byte.nibble_xor, Byte.nibble_nibble, Byte.nibble_nibble]

theorem found_stamp {x y x' y' : Int} (onScreen : Screen.has x y = true)
    (onScreen' : Screen.has x' y' = true) {value : UInt8}
    (small : Byte.nibble value .low = value) (accesses : Nat) (collisions : Collisions) :
    brush.found ⟨⟨brush.stamp canvas.memory.memory x' y' value, accesses⟩, collisions⟩ x y
      = if (x', y') = (x, y) then value else brush.found canvas x y := by
  unfold found stamp
  dsimp only
  split
  · rename_i same
    obtain ⟨rfl, rfl⟩ := Prod.mk.inj same
    rw [Memory.get_set_self, Byte.nibble_withNibble, small]
  · rename_i apart
    rw [Memory.get_set]
    split
    · rename_i shared
      rw [shared]
      apply Byte.nibble_withNibble_ne _ small
      -- The byte is shared, so the nibble cannot be.
      intro nibble
      exact apart (Screen.position_eq onScreen onScreen' shared nibble).symm
    · rfl

/-- **What plotting one pixel does to a position.** -/
theorem found_plot (x' y' : Int) (pen : UInt8) {x y : Int} (onScreen : Screen.has x y = true) :
    brush.found (brush.plot canvas x' y' pen).2 x y
      = if (x', y') = (x, y) then
          brush.blend.result (brush.found canvas x y) (Byte.nibble pen .low)
        else brush.found canvas x y := by
  cases visible : Screen.has x' y' with
  | false =>
      rw [plot_of_outside visible, if_neg]
      intro same
      obtain ⟨rfl, rfl⟩ := Prod.mk.inj same
      rw [visible] at onScreen
      cases onScreen
  | true =>
      by_cases clear : Byte.nibble pen .low = 0
      · rw [plot_of_transparent visible clear, Blend.result, if_pos clear, ite_self]
      · rw [Blend.result, if_neg clear]
        cases mixed : brush.blend.combine (brush.found canvas x' y') (Byte.nibble pen .low) with
        | none =>
            rw [plot_of_blocked visible clear mixed]
            split
            · rename_i same
              obtain ⟨rfl, rfl⟩ := Prod.mk.inj same
              rw [mixed]
              rfl
            · rfl
        | some value =>
            rw [plot_of_drawn visible clear mixed,
              brush.found_stamp canvas onScreen visible (nibble_of_combine mixed)]
            split
            · rename_i same
              obtain ⟨rfl, rfl⟩ := Prod.mk.inj same
              rw [mixed]
              rfl
            · rfl

end Brush

namespace Sprite

def pensAt (placements : List Placement) (x y : Int) : List UInt8 :=
  (placements.filter fun placement => placement.position = (x, y)).map fun placement =>
    Byte.nibble placement.pen .low

theorem pensAt_append (first second : List Placement) (x y : Int) :
    pensAt (first ++ second) x y = pensAt first x y ++ pensAt second x y := by
  rw [pensAt, List.filter_append, List.map_append, pensAt, pensAt]

section Positions

variable {placements : List Placement} {x y : Int}

theorem pensAt_of_notMem (spared : (x, y) ∉ placements.map Placement.position) :
    pensAt placements x y = [] := by
  rw [pensAt, List.map_eq_nil_iff, List.filter_eq_nil_iff]
  intro placement member same
  exact spared (List.mem_map.2 ⟨placement, member, of_decide_eq_true same⟩)

/-- Where each position is visited once, a pen at a position is the only one. -/
theorem pensAt_of_mem {pen : UInt8} (once : (placements.map Placement.position).Nodup)
    (member : ⟨x, y, pen⟩ ∈ placements) :
    pensAt placements x y = [Byte.nibble pen .low] := by
  obtain ⟨before, behind, rfl⟩ := List.append_of_mem member
  rw [List.map_append, List.map_cons, List.nodup_append, List.nodup_cons] at once
  obtain ⟨_, ⟨notBehind, _⟩, apart⟩ := once
  have notBefore : (x, y) ∉ before.map Placement.position :=
    fun again => apart _ again _ List.mem_cons_self rfl
  rw [List.append_cons, pensAt_append, pensAt_append, pensAt_of_notMem notBefore,
    pensAt_of_notMem notBehind]
  simp [pensAt, Placement.position]

end Positions

/-- **A position holds the fold of the pens that are plotted there.** -/
theorem found_plotAll (brush : Brush) (placements : List Placement) {x y : Int}
    (onScreen : Screen.has x y = true) :
    ∀ canvas : Canvas, brush.found (Painted.plotAll brush canvas placements) x y
      = (pensAt placements x y).foldl brush.blend.result (brush.found canvas x y) := by
  induction placements with
  | nil => exact fun _ => rfl
  | cons placement rest recurse =>
      intro canvas
      show brush.found (Painted.plotAll brush
        (brush.plot canvas placement.x placement.y placement.pen).2 rest) x y = _
      rw [recurse, brush.found_plot canvas _ _ _ onScreen]
      unfold pensAt Placement.position
      by_cases here : (placement.x, placement.y) = (x, y)
      · simp only [List.filter_cons, here, decide_true, if_true, List.map_cons, List.foldl_cons]
      · simp only [List.filter_cons, here, decide_false, if_false, Bool.false_eq_true]

theorem found_plotAll_of_notMem (brush : Brush) (canvas : Canvas) {placements : List Placement}
    {x y : Int} (onScreen : Screen.has x y = true)
    (spared : (x, y) ∉ placements.map Placement.position) :
    brush.found (Painted.plotAll brush canvas placements) x y = brush.found canvas x y := by
  rw [found_plotAll brush placements onScreen canvas, pensAt_of_notMem spared]
  rfl

end Sprite

theorem Brush.found_congr {brush : Brush} {first second : Canvas}
    (same : ∀ target, Screen.inFrame brush.videoBase target = true →
      first.memory.memory.get target = second.memory.memory.get target)
    {x y : Int} (onScreen : Screen.has x y = true) :
    brush.found first x y = brush.found second x y := by
  unfold found
  rw [same _ (Screen.inFrame_of_has brush.videoBase onScreen)]

/-- **The nibbles of the screen settle the frame buffer.** -/
theorem Memory.get_eq_of_found {brush : Brush} {first second : Canvas} {target : UInt16}
    (inside : Screen.inFrame brush.videoBase target = true)
    (same : ∀ x y : Int, Screen.has x y = true → brush.found first x y = brush.found second x y) :
    first.memory.memory.get target = second.memory.memory.get target := by
  obtain ⟨x, y, even, odd, place, next, high, low⟩ := Screen.exists_positions inside
  have upper := same x y even
  have lower := same (x + 1 : Nat) y odd
  simp only [Brush.found, Int.toNat_natCast, place, next, high, low] at upper lower
  exact Byte.eq_of_nibbles lower upper

end LynxSuzy
