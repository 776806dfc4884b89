import LynxSuzy.Proofs.Trace
import Mathlib.Data.List.Nodup
import Mathlib.Data.List.Perm.Subperm

/-!
Contract: where the pixels of a quadrant lie.

Owns: the columns that a line of pens covers, one next to the other; the screen
lines that a quadrant steps over, one next to the other; and what follows from
both, that a quadrant visits each position of the screen at most once. None of
it depends on sizes, stretch or tilt.

Does **not** own: how far a size reaches (`Proofs.Scaling`).
-/

set_option autoImplicit false

namespace LynxSuzy.Sprite

namespace Direction

theorem isPast_forward_iff {extent : Nat} {coordinate : Int} :
    forward.isPast extent coordinate = true ↔ (extent : Int) ≤ coordinate :=
  decide_eq_true_iff

theorem isPast_backward_iff {extent : Nat} {coordinate : Int} :
    backward.isPast extent coordinate = true ↔ coordinate < 0 :=
  decide_eq_true_iff

/-- Nothing past an axis comes back to it. -/
theorem not_onAxis_of_isPast {direction : Direction} {extent : Nat} {coordinate : Int}
    (past : direction.isPast extent coordinate = true) (offset : Nat) :
    ¬ (0 ≤ coordinate + direction.sign * offset
        ∧ coordinate + direction.sign * offset < extent) := by
  cases direction with
  | forward =>
      rw [isPast_forward_iff] at past
      simp only [sign]
      omega
  | backward =>
      rw [isPast_backward_iff] at past
      simp only [sign]
      omega

theorem seam_range (direction first : Direction) :
    -1 ≤ direction.seam first ∧ direction.seam first ≤ 1 := by
  cases direction <;> cases first <;> decide

theorem steps_add (direction : Direction) (start : Int) (first second : Nat) :
    start + direction.sign * (first + second : Nat)
      = start + direction.sign * first + direction.sign * second := by
  push_cast
  rw [Int.mul_add, Int.add_assoc]

theorem steps_succ (direction : Direction) (start : Int) (count : Nat) :
    start + direction.sign * (count + 1 : Nat)
      = start + direction.sign + direction.sign * count := by
  rw [Nat.add_comm, steps_add, Int.natCast_one, Int.mul_one]

theorem run_append (direction : Direction) (first second : Nat) :
    ∀ start : Int, direction.run (first + second) start
      = direction.run first start ++ direction.run second (start + direction.sign * first) := by
  induction first with
  | zero =>
      intro start
      simp [run]
  | succ first recurse =>
      intro start
      rw [Nat.add_right_comm, run, run, recurse, steps_succ, List.cons_append]

/-- **A run covers the coordinates from its start on**, as many as it counts. -/
theorem mem_run_iff {direction : Direction} {count : Nat} {start coordinate : Int} :
    coordinate ∈ direction.run count start
      ↔ ∃ offset < count, coordinate = start + direction.sign * offset := by
  induction count generalizing start with
  | zero => simp [run]
  | succ count recurse =>
      rw [run, List.mem_cons, recurse]
      constructor
      · rintro (rfl | ⟨offset, inside, rfl⟩)
        · exact ⟨0, Nat.succ_pos count, by simp⟩
        · exact ⟨offset + 1, Nat.succ_lt_succ inside, (direction.steps_succ start offset).symm⟩
      · rintro ⟨offset, inside, rfl⟩
        cases offset with
        | zero => exact Or.inl (by simp)
        | succ offset =>
            exact Or.inr ⟨offset, Nat.lt_of_succ_lt_succ inside, direction.steps_succ start offset⟩

theorem nodup_run (direction : Direction) (count : Nat) :
    ∀ start : Int, (direction.run count start).Nodup := by
  induction count with
  | zero => exact fun _ => List.nodup_nil
  | succ count recurse =>
      intro start
      rw [run, List.nodup_cons]
      refine ⟨?_, recurse _⟩
      intro again
      obtain ⟨offset, _, place⟩ := mem_run_iff.1 again
      cases direction <;> simp only [sign] at place <;> omega

theorem filter_run_of_isPast {direction : Direction} {coordinate : Int}
    (past : direction.isPast Screen.width coordinate = true) (count : Nat) :
    (direction.run count coordinate).filter Screen.hasColumn = [] := by
  rw [List.filter_eq_nil_iff]
  intro column member
  obtain ⟨offset, _, rfl⟩ := mem_run_iff.1 member
  rw [Screen.hasColumn_iff]
  exact not_onAxis_of_isPast past offset

end Direction

/-! ## Lines of pens -/

/-- The whole units are the high byte of the sum. -/
theorem units_accumulate (size carry : UInt16) :
    (accumulate size carry).1 = (carry + size).toNat / 256 := by
  have shift : (8 : UInt16).toNat % 16 = 8 := by decide
  simp only [accumulate, UInt16.toNat_shiftRight, shift, Nat.shiftRight_eq_div_pow]

/-- The fraction is the low byte of the sum. -/
theorem carry_accumulate (size carry : UInt16) :
    (accumulate size carry).2.toNat = (carry + size).toNat % 256 := by
  have mask : (0x00FF : UInt16).toNat = 2 ^ 8 - 1 := by decide
  simp only [accumulate, UInt16.toNat_and, mask, Nat.and_two_pow_sub_one_eq_mod]

/-- The coordinates that some units of a size cover together. -/
def units (size : UInt16) : Nat → UInt16 → Nat
  | 0, _ => 0
  | count + 1, carry =>
      (accumulate size carry).1 + units size count (accumulate size carry).2

/-- **A line of pens covers adjacent columns**, of which it paints those on the
screen. That it is given up past the screen does not show. -/
theorem map_x_spread (direction : Direction) (size : UInt16) (y : Int) (pens : List UInt8) :
    ∀ (x : Int) (carry : UInt16),
      (spread direction size y pens x carry).map Placement.x
        = (direction.run (units size pens.length carry) x).filter Screen.hasColumn := by
  induction pens with
  | nil => exact fun _ _ => rfl
  | cons pen pens recurse =>
      intro x carry
      rw [spread]
      split
      · rename_i past
        -- The pens that are given up would all have been off the screen.
        rw [Direction.filter_run_of_isPast past, List.map_nil]
      · have painted : ((direction.run (accumulate size carry).1 x).filter Screen.hasColumn).map
            (Placement.x ∘ fun column => Placement.mk column y pen)
              = (direction.run (accumulate size carry).1 x).filter Screen.hasColumn :=
          List.map_id _
        simp only [List.map_append, List.map_map, painted, recurse, List.length_cons, units,
          Direction.run_append, List.filter_append]

theorem nodup_map_x_spread (direction : Direction) (size : UInt16) (y : Int) (pens : List UInt8)
    (x : Int) (carry : UInt16) :
    ((spread direction size y pens x carry).map Placement.x).Nodup := by
  rw [map_x_spread]
  exact (direction.nodup_run _ x).filter _

/-- **What a line of pens paints**: each pen covers as many columns as its unit
of the size takes up. -/
theorem mem_spread_iff {direction : Direction} {size : UInt16} {y : Int} {placement : Placement}
    {pens : List UInt8} :
    ∀ {x : Int} {carry : UInt16}, placement ∈ spread direction size y pens x carry
      ↔ Screen.hasColumn placement.x = true ∧ placement.y = y
        ∧ ∃ index offset : Nat, pens[index]? = some placement.pen
          ∧ units size index carry ≤ offset ∧ offset < units size (index + 1) carry
          ∧ placement.x = x + direction.sign * offset := by
  induction pens with
  | nil =>
      intro x carry
      simp [spread]
  | cons pen pens recurse =>
      intro x carry
      rw [spread]
      split
      · rename_i past
        constructor
        · intro member
          cases member
        · rintro ⟨visible, _, _, offset, _, _, _, place⟩
          rw [place, Screen.hasColumn_iff] at visible
          exact absurd visible (Direction.not_onAxis_of_isPast past offset)
      · simp only [List.mem_append, List.mem_map, List.mem_filter, recurse,
          Direction.mem_run_iff]
        constructor
        · rintro (⟨column, ⟨⟨offset, inside, rfl⟩, visible⟩, rfl⟩ |
            ⟨visible, onLine, index, offset, found, least, most, place⟩)
          · exact ⟨visible, rfl, 0, offset, rfl, Nat.zero_le _, by simpa [units] using inside,
              rfl⟩
          · refine ⟨visible, onLine, index + 1, (accumulate size carry).1 + offset, ?_, ?_, ?_, ?_⟩
            · simpa using found
            · simpa [units] using least
            · rw [units]
              exact Nat.add_lt_add_left most _
            · rw [place, Direction.steps_add]
        · rintro ⟨visible, onLine, index, offset, found, least, most, place⟩
          cases index with
          | zero =>
              left
              have same : pen = placement.pen := by simpa using found
              refine ⟨placement.x, ⟨⟨offset, by simpa [units] using most, place⟩, visible⟩, ?_⟩
              rw [same, ← onLine]
          | succ index =>
              right
              rw [units] at least most
              refine ⟨visible, onLine, index, offset - (accumulate size carry).1, ?_, ?_, ?_, ?_⟩
              · simpa using found
              · omega
              · omega
              · rw [place, Int.add_assoc, ← Int.mul_add]
                congr 2
                omega

/-! ## Rows -/

namespace Row

/-- A row that paints on its own screen line, on the screen, and on each column
at most once. -/
structure WellPlaced (row : Row) : Prop where
  onLine : ∀ placement ∈ row.placements, placement.y = row.y
  onScreen : ∀ placement ∈ row.placements, Screen.has placement.x placement.y = true
  columns : (row.placements.map Placement.x).Nodup

end Row

namespace Course

theorem y_row (course : Course) (pens : List UInt8) (pencil : Pencil) :
    (course.row pens pencil).1.y = pencil.y
      ∧ (course.row pens pencil).2.y = pencil.y + course.heading.vertical.sign := by
  unfold row
  split <;> exact ⟨rfl, rfl⟩

theorem wellPlaced_row (course : Course) (pens : List UInt8) (pencil : Pencil) :
    (course.row pens pencil).1.WellPlaced := by
  unfold row
  split
  · rename_i visible
    refine ⟨?_, ?_, nodup_map_x_spread _ _ _ _ _ _⟩
    · intro placement member
      exact (mem_spread_iff.1 member).2.1
    · intro placement member
      obtain ⟨column, line, _⟩ := mem_spread_iff.1 member
      have onLine : placement.y = pencil.y := line
      rw [Screen.has, column, onLine, visible]
      rfl
  · exact ⟨by simp, by simp, List.nodup_nil⟩

/-- **The rows of a line of data lie one next to the other.** -/
theorem y_rows (course : Course) (pens : List UInt8) (height : Nat) :
    ∀ pencil : Pencil,
      let drawn := course.rows pens height pencil
      drawn.1.map Row.y = course.heading.vertical.run drawn.1.length pencil.y
        ∧ drawn.2.y = pencil.y + course.heading.vertical.sign * drawn.1.length := by
  induction height with
  | zero =>
      intro pencil
      simp [rows, Direction.run]
  | succ height recurse =>
      intro pencil
      rw [rows]
      split
      · simp [Direction.run]
      · obtain ⟨place, next⟩ := course.y_row pens pencil
        obtain ⟨places, last⟩ := recurse (course.row pens pencil).2
        simp only [List.map_cons, List.length_cons, Direction.run, Direction.steps_succ, place,
          places, last, next, true_and]

/-- **The rows of a quadrant lie one next to the other**, whatever the lines of
data are and however often each is repeated. -/
theorem y_trace (course : Course) (lines : List (List UInt8)) :
    ∀ (pencil : Pencil) (carry : UInt16),
      let trace := course.trace lines pencil carry
      trace.rows.map Row.y = course.heading.vertical.run trace.rows.length pencil.y
        ∧ trace.pencil.y = pencil.y + course.heading.vertical.sign * trace.rows.length := by
  induction lines with
  | nil =>
      intro pencil carry
      simp [trace, Direction.run]
  | cons bytes lines recurse =>
      intro pencil carry
      simp only [trace, lineRows_eq]
      obtain ⟨places, next⟩ := course.y_rows (course.pens pencil.latches bytes)
        (accumulate pencil.latches.vsize carry).1 pencil
      obtain ⟨later, last⟩ := recurse
        (course.rows (course.pens pencil.latches bytes)
          (accumulate pencil.latches.vsize carry).1 pencil).2
        (accumulate pencil.latches.vsize carry).2
      rw [List.map_append, List.length_append, Direction.run_append, places, later, last, next]
      exact ⟨rfl, (Direction.steps_add _ _ _ _).symm⟩

theorem wellPlaced_trace (course : Course) (lines : List (List UInt8)) (pencil : Pencil)
    (carry : UInt16) : ∀ row ∈ (course.trace lines pencil carry).rows, row.WellPlaced :=
  (course.trace_spec (fun _ => True) Row.WellPlaced
    (fun pens pencil _ _ => ⟨trivial, course.wellPlaced_row pens pencil⟩)
    lines pencil carry trivial).2

end Course

/-! ## Positions -/

def Placement.position (placement : Placement) : Int × Int :=
  (placement.x, placement.y)

def Placement.cell (placement : Placement) : Nat :=
  placement.y.toNat * Screen.width + placement.x.toNat

theorem cell_lt {placement : Placement}
    (onScreen : Screen.has placement.x placement.y = true) :
    placement.cell < Screen.width * Screen.height := by
  obtain ⟨⟨_, right⟩, _, bottom⟩ := Screen.has_iff.1 onScreen
  simp only [Placement.cell, Screen.width, Screen.height] at *
  omega

theorem position_eq_of_cell_eq {first second : Placement}
    (firstOn : Screen.has first.x first.y = true) (secondOn : Screen.has second.x second.y = true)
    (same : first.cell = second.cell) : first.position = second.position := by
  obtain ⟨⟨left, right⟩, top, bottom⟩ := Screen.has_iff.1 firstOn
  obtain ⟨⟨left', right'⟩, top', bottom'⟩ := Screen.has_iff.1 secondOn
  simp only [Placement.cell, Screen.width, Screen.height] at *
  have line : first.y = second.y := by omega
  have column : first.x = second.x := by omega
  rw [Placement.position, Placement.position, line, column]

/-- Placements that visit each position of the screen at most once are no more
than the screen has positions. -/
theorem length_le_of_nodup {placements : List Placement}
    (onScreen : ∀ placement ∈ placements, Screen.has placement.x placement.y = true)
    (once : (placements.map Placement.position).Nodup) :
    placements.length ≤ Screen.width * Screen.height := by
  have cells : (placements.map Placement.cell).Nodup := by
    rw [List.Nodup, List.pairwise_map] at once ⊢
    apply once.imp_of_mem
    intro first second firstMember secondMember distinct same
    exact distinct
      (position_eq_of_cell_eq (onScreen first firstMember) (onScreen second secondMember) same)
  have inside : placements.map Placement.cell ⊆ List.range (Screen.width * Screen.height) := by
    intro cell member
    obtain ⟨placement, among, rfl⟩ := List.mem_map.1 member
    exact List.mem_range.2 (cell_lt (onScreen placement among))
  calc placements.length
      = (placements.map Placement.cell).length := List.length_map _ |>.symm
    _ ≤ (List.range (Screen.width * Screen.height)).length :=
        (List.subperm_of_subset cells inside).length_le
    _ = Screen.width * Screen.height := List.length_range

theorem Row.WellPlaced.once {row : Row} (placed : row.WellPlaced) :
    (row.placements.map Placement.position).Nodup := by
  have columns := placed.columns
  apply List.Nodup.of_map Prod.fst
  rwa [List.map_map]

theorem nodup_positions {rows : List Row} (placed : ∀ row ∈ rows, row.WellPlaced)
    (apart : (rows.map Row.y).Nodup) :
    ((rows.flatMap Row.placements).map Placement.position).Nodup := by
  rw [List.map_flatMap, List.nodup_flatMap]
  constructor
  · exact fun row member => (placed row member).once
  · rw [List.Nodup, List.pairwise_map] at apart
    apply apart.imp_of_mem
    intro first second firstMember secondMember distinct position inFirst inSecond
    rw [List.mem_map] at inFirst inSecond
    obtain ⟨one, oneMember, rfl⟩ := inFirst
    obtain ⟨other, otherMember, same⟩ := inSecond
    apply distinct
    rw [← (placed first firstMember).onLine one oneMember,
      ← (placed second secondMember).onLine other otherMember]
    exact (congrArg Prod.snd same).symm

namespace Course

variable (course : Course) (lines : List (List UInt8)) (pencil : Pencil) (carry : UInt16)

/-- **A quadrant visits each position of the screen at most once.** -/
theorem nodup_positions_trace :
    (((course.trace lines pencil carry).rows.flatMap Row.placements).map
      Placement.position).Nodup := by
  apply nodup_positions (course.wellPlaced_trace lines pencil carry)
  rw [(course.y_trace lines pencil carry).1]
  exact course.heading.vertical.nodup_run _ _

theorem has_of_mem_trace {placement : Placement}
    (member : placement ∈ (course.trace lines pencil carry).rows.flatMap Row.placements) :
    Screen.has placement.x placement.y = true := by
  obtain ⟨row, among, inRow⟩ := List.mem_flatMap.1 member
  exact (course.wellPlaced_trace lines pencil carry row among).onScreen placement inRow

/-- **A quadrant paints no more pixels than the screen has.** -/
theorem length_placements_trace_le :
    ((course.trace lines pencil carry).rows.flatMap Row.placements).length
      ≤ Screen.width * Screen.height :=
  length_le_of_nodup (fun _ member => course.has_of_mem_trace lines pencil carry member)
    (course.nodup_positions_trace lines pencil carry)

end Course

end LynxSuzy.Sprite
