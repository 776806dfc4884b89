import LynxSuzy.Proofs.Restoring

/-!
Contract: saving and restoring undo each other.

Owns: what a saved console is restored to, on any other console, and that a
console put into a saved state is saved to a document that says the same.

A saved state holds memory and registers. The cartridge with its address, the
colours and the configuration are those of the console that is restored.
-/

set_option autoImplicit false

namespace LynxSuzy

open Json

theorem Json.checkHeading_of {document : Json} {name expected : String}
    (version : document.version = 1) (label : document.label name = expected) :
    document.checkHeading name expected = .ok () := by
  simp only [checkHeading, version, label, ne_eq, not_true, if_false]
  rfl

@[simp] theorem Memory.restore_toJson (memory : Memory) :
    Memory.restore memory.toJson = .ok memory := by
  have complete : memory.toList.toArray.size = UInt16.size := by simp [toList]
  have whole : ofArray? memory.toList.toArray = some memory := dif_pos complete
  have read : readable memory.toJson.bytes? = .ok memory.toList.toArray :=
    readable_eq_ok.2 (bytes?_ofBytes _)
  simp only [restore, read, bind, Except.bind, whole]
  rfl

@[simp] theorem Chip.savedRegisters_save (chip : Chip) :
    Chip.savedRegisters chip.save = .ok chip.registers := by
  have heading : chip.save.checkHeading "chip" "suzy" = .ok () := checkHeading_of rfl rfl
  have state : chip.save.part .chipState = .ok chip.registers.toJson := rfl
  rw [savedRegisters, heading, state]
  exact readable_eq_ok.2 chip.registers.ofJson?_toJson

def Chip.listForm (registers : Registers) : Json :=
  .object
    [("state", registers.toJson.listed), ("chip", .string "suzy"), ("version", .integer 1)]

theorem Chip.savedRegisters_listForm (registers : Registers) :
    Chip.savedRegisters (Chip.listForm registers) = .ok registers := by
  have heading : (Chip.listForm registers).checkHeading "chip" "suzy" = .ok () :=
    checkHeading_of rfl rfl
  have state : (Chip.listForm registers).part .chipState = .ok registers.toJson.listed := rfl
  rw [savedRegisters, heading, state]
  exact readable_eq_ok.2 registers.ofJson?_listed

namespace Console

def snapshot (console : Console) : Snapshot :=
  ⟨console.board.memory, console.board.chip.registers⟩

theorem read_sections {ram chip : Json} {snapshot : Snapshot}
    (memory : Memory.restore ram = .ok snapshot.memory)
    (registers : Chip.savedRegisters chip = .ok snapshot.registers) :
    (Memory.restore ram >>= fun memory =>
      Chip.savedRegisters chip >>= fun registers => pure (Snapshot.mk memory registers))
      = .ok snapshot := by
  rw [memory, registers]
  rfl

theorem ofJson_save (console : Console) : Snapshot.ofJson console.save = .ok console.snapshot := by
  have heading : console.save.checkHeading "system" "lynx" = .ok () := checkHeading_of rfl rfl
  have ram : console.save.part .ram = .ok console.board.memory.toJson := rfl
  have chip : console.save.part .chip = .ok console.board.chip.save := rfl
  rw [Snapshot.ofJson, heading, ram, chip]
  exact read_sections (Memory.restore_toJson _) (Chip.savedRegisters_save _)

theorem restore_save (console other : Console) :
    other.restore console.save = .ok (other.resumed console.snapshot) := by
  rw [restore_eq, ofJson_save]
  rfl

theorem snapshot_resumed (console : Console) (snapshot : Snapshot) :
    (console.resumed snapshot).snapshot = snapshot := rfl

/-- **A saved console is restored as it was, on any other console. A document
that can be restored can be restored, saved and restored again, to the same
memory and the same registers.** -/
theorem saving_and_restoring_are_inverse :
    (∀ console other : Console, ∃ restored, other.restore console.save = .ok restored
      ∧ restored.board.memory = console.board.memory
      ∧ restored.board.chip.registers = console.board.chip.registers
      ∧ restored.board.socket = other.board.socket
      ∧ restored.palette = other.palette
      ∧ restored.board.chip.config = other.board.chip.config
      ∧ restored.board.owed = 0
      ∧ restored.board.chip.lastRun = none)
    ∧ ∀ (document : Json) (console restored other : Console),
        console.restore document = .ok restored →
          ∃ again, other.restore restored.save = .ok again
            ∧ other.restore document = .ok again
            ∧ again.board.memory = restored.board.memory
            ∧ again.board.chip.registers = restored.board.chip.registers := by
  constructor
  · intro console other
    exact ⟨_, restore_save console other, rfl, rfl, rfl, rfl, rfl, rfl, rfl⟩
  · intro document console restored other accepted
    rw [restore_eq] at accepted
    cases read : Snapshot.ofJson document with
    | error error =>
        rw [read] at accepted
        contradiction
    | ok snapshot =>
        rw [read] at accepted
        have same : restored.snapshot = snapshot := by
          rw [← Except.ok.inj accepted, snapshot_resumed]
        have again : other.restore restored.save = .ok (other.resumed snapshot) := by
          rw [restore_save, same]
        have direct : other.restore document = .ok (other.resumed snapshot) := by
          rw [restore_eq, read]
          rfl
        refine ⟨_, again, direct, ?_, ?_⟩
        · exact congrArg Snapshot.memory same.symm
        · exact congrArg Snapshot.registers same.symm

/-- A state as something else might have written it: the registers without their
names, the members in another order, and one that nothing reads. -/
def listForm (snapshot : Snapshot) : Json :=
  .object
    [("comment", .null), ("suzy", Chip.listForm snapshot.registers),
      ("ram", snapshot.memory.toJson), ("system", .string "lynx"), ("version", .integer 1)]

theorem restore_listForm (console : Console) (snapshot : Snapshot) :
    console.restore (listForm snapshot) = .ok (console.resumed snapshot) := by
  have heading : (listForm snapshot).checkHeading "system" "lynx" = .ok () :=
    checkHeading_of rfl rfl
  have ram : (listForm snapshot).part .ram = .ok snapshot.memory.toJson := rfl
  have chip : (listForm snapshot).part .chip = .ok (Chip.listForm snapshot.registers) := rfl
  have read : Snapshot.ofJson (listForm snapshot) = .ok snapshot := by
    rw [Snapshot.ofJson, heading, ram, chip]
    exact read_sections (Memory.restore_toJson _) (Chip.savedRegisters_listForm _)
  rw [restore_eq, read]
  rfl

/-- A state in which a program has left things in memory and in the chip. -/
def sampleSnapshot : Snapshot where
  memory := (Memory.filled 0xEA).load 0x0200 [0x78, 0xD8, 0xA2, 0xFF]
  registers :=
    { Registers.initial with
      videoBase := 0xC000
      busEnabled := true
      arithmetic := { Registers.initial.arithmetic with jklm := 0xFFFFFFF9, signed := true }
      collisions := Registers.initial.collisions.meet 5 3
      joystick := 0x81 }

theorem list_form_is_saved_and_restored :
    ∃ restored again,
      (powerOn Config.standard).restore (listForm sampleSnapshot) = .ok restored
        ∧ (powerOn ⟨none⟩).restore restored.save = .ok again
        ∧ restored.save ≠ listForm sampleSnapshot
        ∧ again.board.memory = sampleSnapshot.memory
        ∧ again.board.chip.registers = sampleSnapshot.registers := by
  have accepted := restore_listForm (powerOn Config.standard) sampleSnapshot
  obtain ⟨again, restoredAgain, _, memory, registers⟩ :=
    saving_and_restoring_are_inverse.2 _ _ _ (powerOn ⟨none⟩) accepted
  refine ⟨_, again, accepted, restoredAgain, ?_, memory, registers⟩
  simp [save, listForm]

end Console

end LynxSuzy
