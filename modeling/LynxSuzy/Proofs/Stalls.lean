import LynxSuzy.Proofs.Histories
import Mathlib.Data.List.DropRight

/-!
Contract: what the processor is charged over a history.

Owns: the steps that let the engine run and the accesses of their runs, the steps
that settle the balance, and the balance as the accesses of the runs since it was
last settled. A cartridge that does not fit and a document that is refused settle
nothing.

Does **not** own: what a run's accesses are (`Proofs.Billing`).
-/

set_option autoImplicit false

namespace LynxSuzy.Console

namespace Step

def startsEngine (step : Step) : Bool :=
  step.action.requestsStart && step.before.board.chip.registers.busEnabled

/-- The accesses in the account of the run, if a step lets the engine run. -/
def accesses (step : Step) : Nat :=
  if step.startsEngine then (step.result.board.chip.lastRun.map RunAccount.accesses).getD 0 else 0

/-- Whether a step leaves nothing owed. What is owed is collected, or dropped with
the state that the console was in. -/
def settles (step : Step) : Bool :=
  match step.action with
  | .collectStall | .reset => true
  | .mount slot image => (step.before.mount slot image).isOk
  | .restore document => (step.before.restore document).isOk
  | _ => false

variable {step : Step}

theorem owed_of_unsettled (unsettled : step.settles = false)
    (still : step.startsEngine = false)
    (charges : step.result.board.charges = step.before.board.charges) :
    step.result.board.owed
      = if step.settles then 0 else step.before.board.owed + step.accesses := by
  rw [unsettled, accesses, still, Board.owed, charges]
  rfl

theorem owed_of_settled (settled : step.settles = true)
    (nothing : step.result.board.charges = []) :
    step.result.board.owed
      = if step.settles then 0 else step.before.board.owed + step.accesses := by
  rw [if_pos settled, Board.owed, nothing]
  rfl

/-- A start is charged with its run's accesses if the engine may run, and with
nothing if it may not. -/
theorem owed_write (before : Console) (address : UInt16) (value : UInt8) :
    let step : Step := ⟨before, .write address value⟩
    step.result.board.owed
      = if step.settles then 0 else step.before.board.owed + step.accesses := by
  intro step
  rcases before.write_cases address value with
    ⟨asked, enabled, ran⟩ | ⟨asked, disabled, _, noted⟩ | ⟨unasked, undisturbed⟩
  · have runs : step.startsEngine = true := by
      rw [startsEngine, Bool.and_eq_true]
      exact ⟨asked, enabled⟩
    have after : step.result.board = _ := ran
    rw [accesses, if_pos runs, after, Nat.add_comm]
    rfl
  · have still : step.startsEngine = false := by
      rw [startsEngine, Bool.and_eq_false_iff]
      exact Or.inr disabled
    apply owed_of_unsettled rfl still
    have after : step.result.board = _ := noted
    rw [after]
    rfl
  · have still : step.startsEngine = false := by
      rw [startsEngine, Bool.and_eq_false_iff]
      exact Or.inl unasked
    exact owed_of_unsettled rfl still undisturbed.charges

/-- **A step either settles the balance or adds the accesses of its run to it.** -/
theorem owed_result (step : Step) :
    step.result.board.owed
      = if step.settles then 0 else step.before.board.owed + step.accesses := by
  obtain ⟨before, action⟩ := step
  cases action with
  | write address value => exact owed_write before address value
  | read address => exact owed_of_unsettled rfl rfl (before.untouched_read address).charges
  | insert image => exact owed_of_unsettled rfl rfl (before.untouched_insert image).charges
  | unmount slot => exact owed_of_unsettled rfl rfl (before.untouched_unmount slot).charges
  | load | handle | joystick | switches | configure | recolour =>
      exact owed_of_unsettled rfl rfl rfl
  | reset => exact owed_of_settled rfl rfl
  | collectStall => exact owed_of_settled rfl before.charges_collectStall
  | mount slot image =>
      rcases before.mount_cases slot image with ⟨inserted, fits⟩ | ⟨error, refused⟩
      · apply owed_of_settled
        · exact congrArg Except.isOk fits
        · rw [result, perform, fits]
          rfl
      · apply owed_of_unsettled _ rfl
        · rw [result, perform, refused]
          rfl
        · exact congrArg Except.isOk refused
  | restore document =>
      have restored := before.restore_eq document
      cases read : Snapshot.ofJson document with
      | ok snapshot =>
          rw [read] at restored
          apply owed_of_settled
          · exact congrArg Except.isOk restored
          · rw [result, perform_restore, read]
            rfl
      | error error =>
          rw [read] at restored
          apply owed_of_unsettled _ rfl
          · rw [result, perform_restore, read]
          · exact congrArg Except.isOk restored
  | restoreChip document =>
      apply owed_of_unsettled rfl rfl
      rw [result, perform_restoreChip]
      cases Chip.savedRegisters (document.content .chip) <;> rfl

end Step

/-- **No stall is lost or charged twice.** After any actions from power-on, what
the processor collects is the accesses in the accounts of the runs since the
balance was last settled: collected before, or dropped by a reset, by the mounting
of a cartridge that fits or by the restoring of a document that is not refused.
Nothing else that a host does, and no failed attempt, adds to it or takes away
from it. -/
theorem stall_is_accesses_since_settled (config : Config) (actions : List Action) :
    ((powerOn config).after actions).collectStall.1
      = ((((powerOn config).steps actions).rtakeWhile fun step => !step.settles).map
          Step.accesses).sum := by
  change ((powerOn config).after actions).board.owed = _
  -- From the end: the last step decides whether anything before it counts.
  induction actions using List.reverseRecOn with
  | nil => rfl
  | append_singleton actions action recurse =>
      have last := Step.owed_result ⟨(powerOn config).after actions, action⟩
      rw [after_concat, steps_concat, List.rtakeWhile_concat]
      rw [Step.result] at last
      rw [last]
      cases settled : Step.settles ⟨(powerOn config).after actions, action⟩ with
      | true => rfl
      | false =>
          rw [if_neg Bool.false_ne_true, Bool.not_false, if_pos rfl, List.map_append,
            List.sum_append, ← recurse]
          rfl

end LynxSuzy.Console
