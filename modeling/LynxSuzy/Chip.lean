import LynxSuzy.Chip.Chain

/-!
Contract: the sprite chip as its host sees it.

Owns: the registers, what the host has configured, the account of the last run
and the input lines.

Does **not** own: access through the bus (`Board`).
-/

set_option autoImplicit false

namespace LynxSuzy

structure Config where
  /-- The most descriptors one run visits. -/
  spriteLimit : Option Nat
  deriving DecidableEq

namespace Config

/-- A generous limit. -/
def standard : Config := ⟨some 256⟩

/-- What stands for no limit: the most visits that a counter of 32 bits can tell. A chain
that closes on itself is given up there, and its run ends as capped. Without a limit no
run would tell that of itself, and this one would go on until its counter overflows. -/
def unlimited : Nat := UInt32.size - 1

/-- The visits that one run may make. -/
def budget (config : Config) : Nat :=
  config.spriteLimit.getD unlimited

end Config

/-- What a run came to. Accesses are counted up to the most that 32 bits can hold. The
other counts have no end here; up to 21870 sprites, of which none draws more than 65280
pixels, they stay below that as well (`Proofs.Bounds`). -/
structure RunAccount where
  /-- Descriptors visited. -/
  sprites : Nat
  /-- Pixels drawn. -/
  pixels : Nat
  /-- Accesses made to memory, which the processor pays for. -/
  accesses : Nat
  /-- The run was cut short by the limit. -/
  capped : Bool
  deriving DecidableEq

structure Run where
  registers : Registers
  memory : Metered
  visits : List Chain.Visit
  exit : Chain.Exit

namespace Run

/-- The most accesses that a run's counter can hold; it stays there. -/
def mostAccesses : Nat := UInt32.size - 1

/-- Run the engine on the chain that the registers point to. -/
def ofRegisters (budget : Nat) (registers : Registers) (memory : Memory) : Run :=
  match Chain.Walk.run budget ⟨registers, Metered.fresh memory, []⟩ with
  | (walk, exit) => ⟨walk.registers, walk.memory, walk.visits, exit⟩

/-- Whether the limit cut a run short. -/
def isCapped (run : Run) : Bool :=
  match run.exit with
  | .capped _ => true
  | .ended | .stopped _ => false

def account (run : Run) : RunAccount where
  sprites := run.visits.length
  pixels := total (run.visits.map Chain.Visit.pixels)
  accesses := min run.memory.accesses mostAccesses
  capped := run.isCapped

/-- The registers once the engine has come to rest. -/
def settled (run : Run) : Registers :=
  { run.registers with working := false, spriteGo := false }

end Run

structure Chip where
  registers : Registers
  config : Config
  /-- The account of the last run, if there was one since power-on. -/
  lastRun : Option RunAccount
  deriving DecidableEq

namespace Chip

def powerOn (config : Config) : Chip := ⟨Registers.initial, config, none⟩

/-- Back to power-on. What the host configured and the input lines stay. -/
def reset (chip : Chip) : Chip where
  registers :=
    { Registers.initial with
      joystick := chip.registers.joystick
      switches := chip.registers.switches }
  config := chip.config
  lastRun := none

/-- The chip with the buttons in another state. -/
def withJoystick (chip : Chip) (value : UInt8) : Chip :=
  { chip with registers := { chip.registers with joystick := value } }

def withSwitches (chip : Chip) (value : UInt8) : Chip :=
  { chip with registers := { chip.registers with switches := value } }

def withConfig (chip : Chip) (config : Config) : Chip :=
  { chip with config := config }

end Chip

end LynxSuzy
