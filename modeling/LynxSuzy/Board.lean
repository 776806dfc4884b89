import LynxSuzy.Cartridge.Socket
import LynxSuzy.Chip.Access
import LynxSuzy.Notice

/-!
Contract: the chip on its board, with memory and the cartridge slot beside it.

Owns: every register access, the run that a start brings about, and what the
processor is charged for it. A start with the bus enabled runs to completion
before the access returns and is charged once; one with the bus disabled only
notes the request.

The board does not depend on what is in the slot, only on what may be asked of
it.
-/

set_option autoImplicit false

namespace LynxSuzy

structure Board (socket : Type) where
  chip : Chip
  memory : Memory
  socket : socket
  /-- What the processor has been charged for and has not collected, latest
  first. -/
  charges : List Nat
  /-- What has happened that is worth a notice, latest first. -/
  reversedNotices : List Notice

namespace Board

variable {socket : Type}

/-- The events in order. -/
def notices (board : Board socket) : List Notice :=
  board.reversedNotices.reverse

/-- Note events, given in order. -/
def note (board : Board socket) (notices : List Notice) : Board socket :=
  { board with reversedNotices := notices.reverse ++ board.reversedNotices }

/-- The board once its events have been looked at. -/
def withoutNotices (board : Board socket) : Board socket :=
  { board with reversedNotices := [] }

def withRegisters (board : Board socket) (registers : Registers) : Board socket :=
  { board with chip := { board.chip with registers := registers } }

def owed (board : Board socket) : Nat :=
  total board.charges

/-- Run the engine on the chain that the registers point to. -/
def runSprites (board : Board socket) : Board socket :=
  match board with
  | ⟨⟨registers, config, _⟩, memory, socket, charges, notices⟩ =>
      let run := Run.ofRegisters config.budget registers memory
      let account := run.account
      let news := run.notices registers.nextDescriptor config.budget
      ⟨⟨run.settled, config, some account⟩, run.memory.memory, socket,
        account.accesses :: charges, news.reverse ++ notices⟩

/-- Answer a start: run the engine if it may use the bus. -/
def start (board : Board socket) : Board socket :=
  if board.chip.registers.busEnabled then board.runSprites else board.note [.startIgnored]

def writeGo (board : Board socket) (value : UInt8) : Board socket :=
  let registers :=
    { board.chip.registers with
      everOn := Byte.flagged value 0x04
      spriteGo := Byte.flagged value 0x01 || board.chip.registers.spriteGo }
  if Byte.flagged value 0x01 then (board.withRegisters registers).start
  else board.withRegisters registers

def writeOperand (board : Board socket) (operand : Arithmetic.Operand) (value : UInt8) :
    Board socket :=
  let unit := board.chip.registers.arithmetic.set operand value
  (board.withRegisters { board.chip.registers with arithmetic := unit }).note
    (unit.noticeAfter? operand).toList

def readCartridge [CartridgeSocket socket] (board : Board socket) (bank : Nat) :
    UInt8 × Board socket :=
  let read := CartridgeSocket.readNext (CartridgeSocket.withBank board.socket bank)
  (read.1, { board with socket := read.2 }.note [.cartridgeRead bank read.1])

def writeCartridge [CartridgeSocket socket] (board : Board socket) (bank : Nat) (value : UInt8) :
    Board socket :=
  let addressed :=
    CartridgeSocket.withCounterLow (CartridgeSocket.withBank board.socket bank) value
  { board with socket := addressed }.note [.cartridgeAddressed bank value]

def revision : UInt8 := 0x01

/-- Read the register at an offset of the chip's page. -/
def readRegister [CartridgeSocket socket] (board : Board socket) (offset : UInt8) :
    UInt8 × Board socket :=
  let registers := board.chip.registers
  match Register.ofOffset offset with
  | .depository first => (registers.collisions.pair first, board)
  | .word register half => (Word.byte (registers.word register) half, board)
  | .byte register => (registers.byte register, board)
  | .operand operand => (registers.arithmetic.get operand, board)
  | .reservedOperand => (0xFF, board)
  | .revision => (revision, board)
  | .busEnable => (Byte.bitIf registers.busEnabled 0x01, board)
  | .spriteGo => (registers.goStatus, board)
  | .system => (registers.systemStatus, board)
  | .joystick =>
      (registers.buttons, board.note [.joystickRead registers.buttons registers.leftHanded])
  | .switches => (registers.switches, board.note [.switchesRead registers.switches])
  | .cartridge bank => board.readCartridge bank
  | .unmapped => (0xFF, board.note [.unmappedRead offset])

/-- Write the register at an offset of the chip's page. -/
def writeRegister [CartridgeSocket socket] (board : Board socket) (offset value : UInt8) :
    Board socket :=
  let registers := board.chip.registers
  match Register.ofOffset offset with
  | .depository first =>
      board.withRegisters
        { registers with collisions := registers.collisions.withPair first value }
  | .word register half =>
      board.withRegisters
        (registers.withWord (Word.withByte (registers.word register) value half) register)
  | .byte register => board.withRegisters (registers.withByte value register)
  | .operand operand => board.writeOperand operand value
  | .reservedOperand => board
  | .busEnable =>
      board.withRegisters { registers with busEnabled := Byte.flagged value 0x01 }
  | .spriteGo => board.writeGo value
  | .system => board.withRegisters (registers.withSystem value)
  | .cartridge bank => board.writeCartridge bank value
  | .revision | .joystick | .switches | .unmapped => board.note [.unmappedWrite offset value]

/-- Back to power-on; memory and the slot stay as they are. -/
def reset (board : Board socket) : Board socket :=
  { board with chip := board.chip.reset }

end Board

end LynxSuzy
