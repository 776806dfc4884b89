import LynxSuzy.Proofs.Histories
import Mathlib.Data.List.Induction

/-!
Contract: what software finds of the sprite engine between two accesses.

Owns: the request in the start register as the last step that decided on it left
it, and that the engine is never found running. A run comes to its end inside the
write that starts it, and takes its request back. A start with the bus disabled
makes no run, and nothing takes its request back then.

Does **not** own: what a start charges (`Proofs.Stalls`).
-/

set_option autoImplicit false

namespace LynxSuzy.Console

def statusAddress : UInt16 := 0xFC92

theorem read_startAddress (console : Console) :
    (console.read startAddress).1 = console.board.chip.registers.goStatus := by
  have reached : reachesChip startAddress = true := by decide
  have found : Register.ofOffset (Word.byte startAddress .low) = .spriteGo := by decide
  simp only [read, reached, if_true, Board.readRegister, found]

theorem read_statusAddress (console : Console) :
    (console.read statusAddress).1 = console.board.chip.registers.systemStatus := by
  have reached : reachesChip statusAddress = true := by decide
  have found : Register.ofOffset (Word.byte statusAddress .low) = .system := by decide
  simp only [read, reached, if_true, Board.readRegister, found]

end Console

namespace Registers

theorem flagged_goStatus (registers : Registers) :
    Byte.flagged registers.goStatus 0x01 = registers.spriteGo := by
  have bits : ∀ everOn spriteGo : Bool,
      Byte.flagged (Byte.bitIf everOn 0x04 ||| Byte.bitIf spriteGo 0x01) 0x01 = spriteGo := by
    decide
  exact bits _ _

/-- The arithmetic unit is never busy, so only the engine could be. -/
theorem systemStatus_and_busy {registers : Registers} (rests : registers.working = false) :
    registers.systemStatus &&& 0x81 = 0 := by
  have bits : ∀ overflow carry stretch left collided stop : Bool,
      (Byte.bitIf overflow 0x40 ||| Byte.bitIf carry 0x20 ||| Byte.bitIf stretch 0x10
        ||| Byte.bitIf left 0x08 ||| Byte.bitIf collided 0x04 ||| Byte.bitIf stop 0x02
        ||| Byte.bitIf false 0x01) &&& 0x81 = 0 := by
    decide
  rw [systemStatus, rests]
  exact bits _ _ _ _ _ _

end Registers

namespace Console

/-! ## Requests -/

/-- Whether an action leaves a request in the start register, if it decides on
that. -/
def Action.request? (before : Console) : Action → Option Bool
  | .write address value =>
      if (Action.write address value).requestsStart then
        some (!before.board.chip.registers.busEnabled)
      else none
  | .reset => some false
  | .mount slot image => if (before.mount slot image).isOk then some false else none
  | .restore document =>
      (Snapshot.ofJson document).toOption.map fun snapshot => snapshot.registers.spriteGo
  | .restoreChip document =>
      (Chip.savedRegisters (document.content .chip)).toOption.map Registers.spriteGo
  | _ => none

namespace Step

def request? (step : Step) : Option Bool :=
  step.action.request? step.before

variable {step : Step}

theorem spriteGo_of_undisturbed (undecided : step.request? = none)
    (undisturbed : step.before.board.Undisturbed step.result.board) :
    step.result.board.chip.registers.spriteGo
      = step.request?.getD step.before.board.chip.registers.spriteGo := by
  rw [undecided, undisturbed.spriteGo]
  rfl

/-- A start that may run takes its request back, one that may not leaves it. -/
theorem spriteGo_write (before : Console) (address : UInt16) (value : UInt8) :
    let step : Step := ⟨before, .write address value⟩
    step.result.board.chip.registers.spriteGo
      = step.request?.getD before.board.chip.registers.spriteGo := by
  intro step
  rcases before.write_cases address value with
    ⟨asked, enabled, ran⟩ | ⟨asked, disabled, starts, noted⟩ | ⟨unasked, undisturbed⟩
  · have decided : step.request? = some (!before.board.chip.registers.busEnabled) := if_pos asked
    have after : step.result.board = _ := ran
    rw [decided, enabled, after]
    rfl
  · have decided : step.request? = some (!before.board.chip.registers.busEnabled) := if_pos asked
    have requested : (before.board.chip.registers.started value).spriteGo = true := by
      rw [Registers.started, starts, Bool.true_or]
    have after : step.result.board = _ := noted
    rw [decided, disabled, after]
    exact requested
  · have undecided : step.request? = none := if_neg (Bool.eq_false_iff.1 unasked)
    exact spriteGo_of_undisturbed undecided undisturbed

/-- **The request after a step is the one that it decides on, or the one before.** -/
theorem spriteGo_result (step : Step) :
    step.result.board.chip.registers.spriteGo
      = step.request?.getD step.before.board.chip.registers.spriteGo := by
  obtain ⟨before, action⟩ := step
  cases action with
  | write address value => exact spriteGo_write before address value
  | read address => exact spriteGo_of_undisturbed rfl (before.untouched_read address).undisturbed
  | insert image => exact spriteGo_of_undisturbed rfl (before.untouched_insert image).undisturbed
  | unmount slot => exact spriteGo_of_undisturbed rfl (before.untouched_unmount slot).undisturbed
  | load | handle | joystick | switches | configure | recolour | reset => rfl
  | collectStall =>
      rw [result, perform, chip_collectStall]
      rfl
  | mount slot image =>
      rw [result, perform, request?, Action.request?]
      rcases before.mount_cases slot image with ⟨inserted, fits⟩ | ⟨error, refused⟩
      · rw [fits]
        rfl
      · rw [refused]
        rfl
  | restore document =>
      rw [result, perform_restore, request?, Action.request?]
      cases Snapshot.ofJson document <;> rfl
  | restoreChip document =>
      rw [result, perform_restoreChip, request?, Action.request?]
      cases Chip.savedRegisters (document.content .chip) <;> rfl

end Step

theorem spriteGo_after (config : Config) (actions : List Action) :
    ((powerOn config).after actions).board.chip.registers.spriteGo
      = (((powerOn config).steps actions).reverse.findSome? Step.request?).getD false := by
  induction actions using List.reverseRecOn with
  | nil => rfl
  | append_singleton actions action recurse =>
      have last := Step.spriteGo_result ⟨(powerOn config).after actions, action⟩
      rw [Step.result] at last
      rw [after_concat, steps_concat, List.reverse_concat, List.findSome?_cons, last, recurse]
      cases Step.request? ⟨(powerOn config).after actions, action⟩ <;> rfl

/-! ## Rest -/

def Rests (console : Console) : Prop :=
  console.board.chip.registers.working = false

theorem rests_write {console : Console} (rests : console.Rests) (address : UInt16) (value : UInt8) :
    (console.write address value).Rests := by
  rcases console.write_cases address value with
    ⟨_, _, ran⟩ | ⟨_, _, _, noted⟩ | ⟨_, undisturbed⟩
  · rw [Rests, ran]
    rfl
  · rw [Rests, noted]
    exact rests
  · exact undisturbed.working.trans rests

/-- **No action leaves the engine running**, if what it restores was saved while it
was not. -/
theorem rests_perform (console : Console) (action : Action) (rests : console.Rests)
    (restores : action.From Rests) : (console.perform action).Rests := by
  cases action with
  | write address value => exact rests_write rests address value
  | read address => exact (console.untouched_read address).undisturbed.working.trans rests
  | insert image => exact (console.untouched_insert image).undisturbed.working.trans rests
  | unmount slot => exact (console.untouched_unmount slot).undisturbed.working.trans rests
  | load | handle | joystick | switches | configure | recolour => exact rests
  | reset => rfl
  | collectStall =>
      rw [Rests, perform, chip_collectStall]
      exact rests
  | mount slot image =>
      rw [perform]
      rcases console.mount_cases slot image with ⟨inserted, fits⟩ | ⟨error, refused⟩
      · rw [fits]
        rfl
      · rw [refused]
        exact rests
  | restore document =>
      obtain ⟨saved, rested, rfl⟩ := restores document rfl
      rw [perform_restore, ofJson_save]
      exact rested
  | restoreChip document =>
      obtain ⟨saved, rested, rfl⟩ := restores document rfl
      rw [perform_restoreChip, savedRegisters_content_save]
      exact rested

/-- **Between accesses the engine is found at rest, and a request is left only by
a start that might not run.** After any actions from power-on that restore nothing
but saved states, the status register shows neither the engine nor the arithmetic
unit at work. The start register shows a request exactly if the last step that
decided on it was a start with the bus disabled, or brought back a state that had
been saved with such a request; a start with the bus enabled, a reset and the
mounting of a cartridge leave none. -/
theorem engine_rests_between_accesses (config : Config) {actions : List Action}
    (genuine : Genuine actions) :
    let console := (powerOn config).after actions
    (console.read statusAddress).1 &&& 0x81 = 0
      ∧ (Byte.flagged (console.read startAddress).1 0x01 = true
        ↔ ((powerOn config).steps actions).reverse.findSome? Step.request? = some true) := by
  intro console
  constructor
  · rw [read_statusAddress]
    apply Registers.systemStatus_and_busy
    exact keeps_of_genuine (fun _ => rfl) rests_perform config genuine
  · rw [read_startAddress, Registers.flagged_goStatus, spriteGo_after]
    cases ((powerOn config).steps actions).reverse.findSome? Step.request? with
    | none => simp
    | some left => simp

/-- A start before the bus is enabled leaves its request, and the next start takes
it back. -/
theorem engine_rests_after_early_start :
    let early : List Action := [.write startAddress 0x01]
    let late : List Action := early ++ [.write 0xFC90 0x01, .write startAddress 0x01]
    Byte.flagged (((powerOn Config.standard).after early).read startAddress).1 0x01 = true
      ∧ Byte.flagged (((powerOn Config.standard).after late).read startAddress).1 0x01 = false
      ∧ (((powerOn Config.standard).after late).read statusAddress).1 &&& 0x81 = 0 := by
  have earlyGenuine : Genuine [.write startAddress 0x01] := by
    intro action among document has
    rw [List.mem_singleton.1 among] at has
    cases has
  have lateGenuine : Genuine
      [.write startAddress 0x01, .write 0xFC90 0x01, .write startAddress 0x01] := by
    intro action among document has
    simp only [List.mem_cons, List.not_mem_nil, or_false] at among
    rcases among with rfl | rfl | rfl <;> cases has
  obtain ⟨_, left⟩ := engine_rests_between_accesses Config.standard earlyGenuine
  obtain ⟨rests, taken⟩ := engine_rests_between_accesses Config.standard lateGenuine
  refine ⟨left.2 rfl, ?_, rests⟩
  rw [← Bool.not_eq_true]
  exact mt taken.1 (by decide)

end Console

end LynxSuzy
