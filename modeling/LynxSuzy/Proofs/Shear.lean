import LynxSuzy.Proofs.Passes

/-!
Contract: tilt, from the first row of a pass to its last.

Owns: the tilt that comes together over the rows of a pass, as a number and as the
word it is kept in; where it moves each row on the screen; and when this is a straight
shear. The tilt moves the position on the screen alone, so that before the screen it
adds up whole. There it can be more than a signed word holds, and what the word turns
over by is missing from every row.

Does **not** own: how a word's bits are read (`Word`).
-/

set_option autoImplicit false

namespace LynxSuzy

/-! ## Words that turn over -/

namespace Word

/-- How often a signed word has turned over when it counts to a number. -/
def turns (number : Int) : Int :=
  (number + 0x8000) / 0x10000

theorem turns_eq_zero_iff {number : Int} :
    turns number = 0 ↔ -0x8000 ≤ number ∧ number < 0x8000 := by
  unfold turns
  omega

theorem toNat_ofInt (number : Int) :
    (UInt16.ofInt number).toNat = (number % 0x10000).toNat := by
  rw [UInt16.ofInt, UInt16.toNat_ofNat']
  omega

theorem signed_ofInt (number : Int) :
    signed (UInt16.ofInt number) = number - 0x10000 * turns number := by
  have value := toNat_ofInt number
  unfold signed turns
  split <;> omega

theorem ofInt_signed (word : UInt16) : UInt16.ofInt (signed word) = word := by
  have bounded := word.toNat_lt
  apply UInt16.toNat_inj.1
  rw [toNat_ofInt]
  unfold signed
  split <;> omega

theorem ofInt_low (number : Int) :
    UInt16.ofInt number &&& (0x00FF : UInt16) = UInt16.ofInt (number % 256) := by
  apply UInt16.toNat_inj.1
  have low : (UInt16.ofInt number &&& (0x00FF : UInt16)).toNat
      = (UInt16.ofInt number).toNat % 256 := by
    rw [UInt16.toNat_and]
    exact Nat.and_two_pow_sub_one_eq_mod _ 8
  rw [low, toNat_ofInt, toNat_ofInt]
  omega

theorem ofInt_eq_iff {first second : Int} :
    UInt16.ofInt first = UInt16.ofInt second ↔ (0x10000 : Int) ∣ first - second := by
  rw [← UInt16.toNat_inj, toNat_ofInt, toNat_ofInt]
  omega

end Word

namespace Sprite

/-! ## Tilt as a number -/

/-- The tilt that has come together when a row is reached, if it could be any number:
before the screen all of it, on the screen what the row before left of it and one tilt. -/
def gathered (hidden : Nat) (tilt : Int) : Nat → Int
  | 0 => 0
  | count + 1 =>
      (if hidden ≤ count then gathered hidden tilt count % 256 else gathered hidden tilt count)
        + tilt

/-- How often the word that collects the tilt has turned over in the rows on the screen
up to one. -/
def turnovers (hidden : Nat) (tilt : Int) : Nat → Int
  | 0 => 0
  | count + 1 =>
      turnovers hidden tilt count
        + if hidden ≤ count + 1 then Word.turns (gathered hidden tilt (count + 1)) else 0

/-- Where a row on the screen is drawn, from the position that the pass began with. -/
def slant (hidden : Nat) (tilt : Int) (count : Nat) : Int :=
  count * tilt / 256 - 256 * turnovers hidden tilt count

/-- How far the position has been moved when a row is reached. -/
def shifted (hidden : Nat) (tilt : Int) : Nat → Int
  | 0 => 0
  | count + 1 => if hidden ≤ count then slant hidden tilt count else 0

section Numbers

variable (hidden : Nat) (tilt : Int)

theorem gathered_of_le : ∀ {count : Nat}, count ≤ hidden → gathered hidden tilt count = count * tilt
  | 0, _ => by rw [gathered, Int.natCast_zero, Int.zero_mul]
  | count + 1, before => by
      rw [gathered, if_neg (Nat.not_le.2 before), gathered_of_le (Nat.le_of_succ_le before),
        Int.natCast_succ, Int.add_mul, Int.one_mul]

/-- Whole units may be missing from the tilt, but no fraction. -/
theorem gathered_emod (count : Nat) : gathered hidden tilt count % 256 = count * tilt % 256 := by
  induction count with
  | zero => rw [gathered, Int.natCast_zero, Int.zero_mul]
  | succ count recurse =>
      rw [gathered, Int.natCast_succ, Int.add_mul, Int.one_mul]
      split <;> omega

theorem turnovers_of_lt {count : Nat} (before : count < hidden) :
    turnovers hidden tilt count = 0 := by
  induction count with
  | zero => rfl
  | succ count recurse =>
      rw [turnovers, recurse (Nat.lt_of_succ_lt before), if_neg (Nat.not_le.2 before), Int.add_zero]

/-- **A row on the screen moves the position to its slant.** The whole units of the
gathered tilt and those that the rows before it have taken make up the units of all
rows together. -/
theorem shifted_add {count : Nat} (visible : hidden ≤ count) :
    shifted hidden tilt count
        + (gathered hidden tilt count - 0x10000 * Word.turns (gathered hidden tilt count)) / 256
      = slant hidden tilt count := by
  cases count with
  | zero =>
      obtain rfl := Nat.le_zero.1 visible
      rw [slant, Int.natCast_zero, Int.zero_mul]
      rfl
  | succ count =>
      have drawn : slant hidden tilt (count + 1)
          = (count * tilt + tilt) / 256 - 256 * (turnovers hidden tilt count
            + Word.turns (gathered hidden tilt (count + 1))) := by
        rw [slant, turnovers, if_pos visible, Int.natCast_succ, Int.add_mul, Int.one_mul]
      rw [shifted, drawn]
      by_cases later : hidden ≤ count
      · have fraction := gathered_emod hidden tilt count
        have units : gathered hidden tilt (count + 1) = count * tilt % 256 + tilt := by
          rw [gathered, if_pos later, fraction]
        rw [if_pos later, slant, units]
        omega
      · -- The first row on the screen takes the whole tilt of the rows before it.
        have whole : gathered hidden tilt (count + 1) = count * tilt + tilt := by
          rw [gathered, if_neg later, gathered_of_le hidden tilt (Nat.le_of_not_le later)]
        rw [if_neg later, turnovers_of_lt hidden tilt (Nat.lt_of_not_le later), whole]
        omega

/-- The word does not turn over where it holds the tilt of the rows before the screen,
and a tilt with any fraction behind it. -/
theorem turnovers_eq_zero (fits : Word.turns (hidden * tilt) = 0)
    (least : -0x8000 ≤ tilt) (most : tilt ≤ 0x7F00) (count : Nat) :
    turnovers hidden tilt count = 0 := by
  induction count with
  | zero => rfl
  | succ count recurse =>
      rw [turnovers, recurse, Int.zero_add]
      split
      · rename_i visible
        by_cases later : hidden ≤ count
        · rw [gathered, if_pos later, Word.turns_eq_zero_iff]
          omega
        · have first : hidden = count + 1 := Nat.le_antisymm visible (Nat.lt_of_not_le later)
          rw [gathered_of_le hidden tilt (Nat.le_of_eq first.symm), ← first]
          exact fits
      · rfl

end Numbers

def Direction.hidden (direction : Direction) (start : Int) : Nat :=
  match direction with
  | .forward => (-start).toNat
  | .backward => (start - (Screen.height - 1)).toNat

theorem Direction.hasLine_iff {direction : Direction} {start : Int} {count : Nat}
    (onWay : direction.isPast Screen.height (start + direction.sign * count) = false) :
    Screen.hasLine (start + direction.sign * count) = true ↔ direction.hidden start ≤ count := by
  rw [Screen.hasLine_iff]
  cases direction with
  | forward =>
      simp only [isPast, decide_eq_false_iff_not] at onWay
      simp only [sign, hidden, Screen.height] at *
      omega
  | backward =>
      simp only [isPast, decide_eq_false_iff_not] at onWay
      simp only [sign, hidden, Screen.height] at *
      omega

namespace Course

/-! ## Tilt from row to row -/

def hidden (course : Course) (vpos : UInt16) : Nat :=
  course.heading.vertical.hidden (course.line vpos)

/-- A pencil on its way through a pass, after so many of its rows. The word that leans
holds the tilt as far as it can. -/
structure Leaning (course : Course) (before : Latches) (count : Nat) (pencil : Pencil) : Prop where
  tilt : pencil.latches.tilt = before.tilt
  y : pencil.y = course.line before.vpos + course.heading.vertical.sign * count
  lean : pencil.lean
    = UInt16.ofInt (gathered (course.hidden before.vpos) (Word.signed before.tilt) count)
  hpos : pencil.latches.hpos = before.hpos
    + UInt16.ofInt (shifted (course.hidden before.vpos) (Word.signed before.tilt) count)

/-- A row of the given number in its pass. It is on the screen if all rows before the
screen come before it, and then it is drawn at its slant. -/
structure Slants (course : Course) (before : Latches) (count : Nat) (row : Row) : Prop where
  visible_iff : Screen.hasLine row.y = true ↔ course.hidden before.vpos ≤ count
  hpos : Screen.hasLine row.y = true → row.hpos = before.hpos
    + UInt16.ofInt (slant (course.hidden before.vpos) (Word.signed before.tilt) count)

theorem leaning_pencil (course : Course) (before : Latches) :
    course.Leaning before 0 (course.pencil before) := by
  refine ⟨rfl, ?_, rfl, ?_⟩
  · show course.line before.vpos = _
    rw [Int.natCast_zero, Int.mul_zero, Int.add_zero]
  · exact (UInt16.add_zero _).symm

variable {course : Course} {before : Latches} {count : Nat} {pencil : Pencil}

/-- On the screen the units of the tilt go into the position and its fraction stays. -/
theorem Leaning.settle (leaning : course.Leaning before count pencil)
    (visible : course.hidden before.vpos ≤ count) :
    pencil.settle.latches.hpos = before.hpos
        + UInt16.ofInt (slant (course.hidden before.vpos) (Word.signed before.tilt) count)
      ∧ pencil.settle.lean = UInt16.ofInt
        (gathered (course.hidden before.vpos) (Word.signed before.tilt) count % 256) := by
  constructor
  · show pencil.latches.hpos + UInt16.ofInt (Word.signed pencil.lean / 256) = _
    rw [leaning.hpos, leaning.lean, Word.signed_ofInt, ← shifted_add _ _ visible, UInt16.ofInt_add,
      UInt16.add_assoc]
  · show pencil.lean &&& (0x00FF : UInt16) = _
    rw [leaning.lean, Word.ofInt_low]

theorem lean_advance (tilted : course.control.reload.hasTilt = true) {number : Int}
    (lean : pencil.lean = UInt16.ofInt number) (tilt : pencil.latches.tilt = before.tilt) :
    (course.advance pencil).lean = UInt16.ofInt (number + Word.signed before.tilt) := by
  show (if course.control.reload.hasTilt then pencil.lean + pencil.latches.tilt
    else pencil.lean) = _
  rw [if_pos tilted, lean, tilt, UInt16.ofInt_add, Word.ofInt_signed]

theorem tilt_advance (course : Course) (pencil : Pencil) :
    (course.advance pencil).latches.tilt = pencil.latches.tilt
      ∧ (course.advance pencil).latches.hpos = pencil.latches.hpos := by
  unfold advance Latches.stretched
  split <;> exact ⟨rfl, rfl⟩

/-- **A row leans the pencil by one tilt**, and is drawn where the tilt of all rows
before it has moved it. -/
theorem Leaning.row (tilted : course.control.reload.hasTilt = true)
    (leaning : course.Leaning before count pencil)
    (onWay : course.heading.vertical.isPast Screen.height pencil.y = false) (pens : List UInt8) :
    course.Leaning before (count + 1) (course.row pens pencil).2
      ∧ course.Slants before count (course.row pens pencil).1 := by
  have visible_iff : Screen.hasLine pencil.y = true ↔ course.hidden before.vpos ≤ count := by
    rw [leaning.y] at onWay ⊢
    exact Direction.hasLine_iff onWay
  have next := (course.y_row pens pencil).2
  have lower : (course.row pens pencil).2.y
      = course.line before.vpos + course.heading.vertical.sign * (count + 1 : Nat) := by
    rw [next, leaning.y, Direction.steps_succ, Int.add_right_comm]
  by_cases visible : Screen.hasLine pencil.y
  · have reached := visible_iff.1 visible
    obtain ⟨hpos, lean⟩ := leaning.settle reached
    have moved := course.tilt_advance pencil.settle
    have leant := lean_advance tilted lean leaning.tilt
    rw [Course.row, if_pos visible] at lower ⊢
    refine ⟨⟨moved.1.trans leaning.tilt, lower, ?_, ?_⟩, visible_iff, fun _ => hpos⟩
    · rw [leant, gathered, if_pos reached]
    · rw [moved.2, hpos, shifted, if_pos reached]
  · have unseen : ¬ course.hidden before.vpos ≤ count := fun reached =>
      visible (visible_iff.2 reached)
    have moved := course.tilt_advance pencil
    have leant := lean_advance tilted leaning.lean leaning.tilt
    rw [Course.row, if_neg visible] at lower ⊢
    refine ⟨⟨moved.1.trans leaning.tilt, lower, ?_, ?_⟩, visible_iff,
      fun shown => absurd shown visible⟩
    · rw [leant, gathered, if_neg unseen]
    · have still : shifted (course.hidden before.vpos) (Word.signed before.tilt) count = 0 := by
        cases count with
        | zero => rfl
        | succ count => exact if_neg fun reached => unseen (Nat.le_succ_of_le reached)
      rw [moved.2, leaning.hpos, shifted, if_neg unseen, still]

theorem slants_pass (course : Course) (tilted : course.control.reload.hasTilt = true)
    (lines : List (List UInt8)) (before : Latches) (k : Nat) (row : Row)
    (found : (course.passTrace lines before).rows[k]? = some row) :
    course.Slants before k row := by
  obtain ⟨_, numbered⟩ := course.trace_numbered (course.Leaning before)
    (fun _ => course.Slants before)
    (fun pens _ _ leaning onWay => leaning.row tilted onWay pens)
    lines 0 (course.pencil before) course.heading.vertical.bias (course.leaning_pencil before)
  obtain ⟨_, _, _, _, _, slants⟩ := numbered k row found
  rwa [Nat.zero_add] at slants

end Course

/-! ## Passes that tilt -/

/-- A pass whose rows are moved by tilt from where it began with some latches. -/
structure Pass.Sheared (job : Job) (before : Latches) (pass : Pass) : Prop where
  slants : ∀ (k : Nat) (row : Row), pass.rows[k]? = some row →
    (job.course pass.summary.quadrant).Slants before k row
  /-- A row on the screen is on the shear if the word has turned over a multiple of 256
  times. -/
  straight_iff : ∀ (k : Nat) (row : Row), pass.rows[k]? = some row →
    Screen.hasLine row.y = true →
    (row.hpos = before.hpos + UInt16.ofInt (k * Word.signed before.tilt / 256)
      ↔ (256 : Int) ∣ turnovers ((job.course pass.summary.quadrant).hidden before.vpos)
          (Word.signed before.tilt) k)
  /-- All of them are where the word holds the tilt of the rows before the screen, and a
  tilt with any fraction behind it. -/
  straight : Word.turns ((job.course pass.summary.quadrant).hidden before.vpos
      * Word.signed before.tilt) = 0 →
    Word.signed before.tilt ≤ 0x7F00 →
    ∀ (k : Nat) (row : Row), pass.rows[k]? = some row → Screen.hasLine row.y = true →
      row.hpos = before.hpos + UInt16.ofInt (k * Word.signed before.tilt / 256)

theorem Course.Slants.straight_iff {course : Course} {before : Latches} {k : Nat} {row : Row}
    (slants : course.Slants before k row) (visible : Screen.hasLine row.y = true) :
    row.hpos = before.hpos + UInt16.ofInt (k * Word.signed before.tilt / 256)
      ↔ (256 : Int) ∣ turnovers (course.hidden before.vpos) (Word.signed before.tilt) k := by
  rw [slants.hpos visible, UInt16.add_right_inj, Word.ofInt_eq_iff, slant]
  omega

theorem Job.Makes.sheared {job : Job} (tilted : job.control.reload.hasTilt = true)
    {before after : Latches} {pass : Pass} (made : job.Makes before pass after)
    (rendered : pass.summary.superclipped = false) : pass.Sheared job before := by
  rcases made.cases with ⟨superclipped, _⟩ | ⟨_, rows, _⟩
  · rw [rendered] at superclipped
    cases superclipped
  · have slants : ∀ (k : Nat) (row : Row), pass.rows[k]? = some row →
        (job.course pass.summary.quadrant).Slants before k row := by
      rw [rows]
      exact (job.course pass.summary.quadrant).slants_pass tilted pass.lines before
    refine ⟨slants, fun k row found => (slants k row found).straight_iff, ?_⟩
    intro fits gentle k row found visible
    rw [(slants k row found).straight_iff visible,
      turnovers_eq_zero _ _ fits (Word.signed_lower _) gentle k]
    exact Int.dvd_zero 256

/-- **Where tilt draws the rows of a sprite.** A row on the screen that has so many rows
before it in its pass lies at their tilts' whole units from where the pass began, less
256 for each time that the word collecting them has turned over. Without that a pass is
a straight shear, and so it is when the tilt of all rows before the screen fits a signed
word; but the word can turn over when they are many. -/
theorem tilt_shears (scene : Scene) {descriptor : Descriptor}
    (tilted : descriptor.control.reload.hasTilt = true) (latches : Latches) (canvas : Canvas) :
    let job := Job.ofSprite scene descriptor latches
    let drawing := draw scene descriptor latches canvas
    Handed
      (fun before pass after => job.Makes before pass after
        ∧ (pass.summary.superclipped = false → pass.Sheared job before))
      latches drawing.passes drawing.latches :=
  (draw_handed scene descriptor latches canvas).imp fun _ _ _ made => ⟨made, made.sheared tilted⟩

def tiltedSprite : Descriptor :=
  { sampleSprite with control1 := 0xB8 }

/-- A sprite that begins 200 lines above the screen and tilts by a column from line to
line. By the screen's first line the tilts of the lines before it have come to more than
a signed word holds, so it is not drawn 200 columns to the right but 56 to the left. -/
theorem tilt_turned_over :
    let latches : Latches :=
      { Latches.initial with hpos := 0xFF6A, vpos := 0xFF38, vsize := 0xFF00, tilt := 0x0100 }
    let drawing := draw ⟨0, 0, 0xC000, false, none⟩ tiltedSprite latches
      ⟨Metered.fresh sampleMemory, Collisions.empty⟩
    tiltedSprite.control.reload.hasTilt = true
      ∧ ∃ pass, drawing.passes.head? = some pass ∧ ∃ row, pass.rows[200]? = some row
        ∧ row.y = 0 ∧ row.hpos = latches.hpos - 56 ∧ row.hpos ≠ latches.hpos + 200 := by
  intro latches drawing
  have tilted : tiltedSprite.control.reload.hasTilt = true := by decide
  have passes : drawing.passes = _ := passes_sample rfl (by decide) latches
  -- The first pass is that of the quadrant to the right and down, with its row on line 0.
  have shown : (drawing.passes.head?.map fun pass =>
      (pass.summary.quadrant, pass.summary.superclipped, pass.rows[200]?.map Row.y))
        = some (.downRight, false, some 0) := by
    rw [passes]
    decide +kernel
  have handed : Handed _ latches drawing.passes drawing.latches :=
    tilt_shears ⟨0, 0, 0xC000, false, none⟩ tilted latches
      ⟨Metered.fresh sampleMemory, Collisions.empty⟩
  clear_value drawing
  obtain ⟨pass, first, entries⟩ := Option.map_eq_some_iff.1 shown
  simp only [Prod.mk.injEq] at entries
  obtain ⟨quadrant, rendered, onLine⟩ := entries
  obtain ⟨row, found, y⟩ := Option.map_eq_some_iff.1 onLine
  obtain ⟨_, _, sheared⟩ := handed.first first
  have visible : Screen.hasLine row.y = true := by
    rw [y]
    decide
  have hpos : row.hpos = latches.hpos - 56 := by
    rw [((sheared rendered).slants 200 row found).hpos visible, quadrant]
    decide +kernel
  refine ⟨tilted, pass, first, row, found, y, hpos, ?_⟩
  rw [hpos]
  decide

end Sprite

end LynxSuzy
