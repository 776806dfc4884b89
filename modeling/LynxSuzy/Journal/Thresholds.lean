import LynxSuzy.Journal.Level

/-!
Contract: which messages are kept.

Owns: one level for each category and one for all. A category whose own level
is off falls back to the level for all, so a category can be made more or less
talkative than the rest but not silenced on its own.
-/

set_option autoImplicit false

namespace LynxSuzy.Journal

structure Thresholds where
  /-- For categories without a level of their own. -/
  overall : Level
  own : PerCategory Level
  deriving DecidableEq

namespace Thresholds

/-- Nothing is kept. -/
def silent : Thresholds := ⟨.off, PerCategory.const .off⟩

def inForce (thresholds : Thresholds) (category : Category) : Level :=
  match thresholds.own.get category with
  | .off => thresholds.overall
  | level => level

/-- Whether a message is kept. Messages at level off never are. -/
def keeps (thresholds : Thresholds) (category : Category) (level : Level) : Bool :=
  level != .off && decide (level.rank ≤ (thresholds.inForce category).rank)

/-- A message is kept if its category's own level lets it, or if that is off and the level
for all does. -/
theorem keeps_iff (thresholds : Thresholds) (category : Category) (level : Level) :
    thresholds.keeps category level = true ↔
      level ≠ .off ∧ (level.rank ≤ (thresholds.own.get category).rank
        ∨ thresholds.own.get category = .off ∧ level.rank ≤ thresholds.overall.rank) := by
  unfold keeps inForce
  rw [Bool.and_eq_true, bne_iff_ne, decide_eq_true_iff]
  refine and_congr_right fun isOn => ?_
  cases own : thresholds.own.get category with
  | off =>
      have above : ¬level.rank ≤ Level.off.rank := by
        cases level <;> first | exact absurd rfl isOn | decide
      simp [above]
  | _ => simp

def withOverall (thresholds : Thresholds) (level : Level) : Thresholds :=
  { thresholds with overall := level }

def withOwn (thresholds : Thresholds) (category : Category) (level : Level) : Thresholds :=
  { thresholds with own := thresholds.own.set category level }

end Thresholds

end LynxSuzy.Journal
