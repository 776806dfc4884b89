import LynxSuzy.Proofs.Footprint
import LynxSuzy.Proofs.Saving

/-!
Contract: what a host does to a console, one action after another.

Owns: the actions of a host, the steps that a list of them goes through, and what
each kind of action does to the requests and charges of the sprite engine. Media
that do not fit and documents that are refused leave the console alone. States
that are restored can be demanded to have been saved before, by a console that
has itself come there from power-on; what every action keeps then holds after all
of them.

Does **not** own: what the engine does when it is started (`Proofs.Walk`).
-/

set_option autoImplicit false

namespace LynxSuzy.Console

inductive Action where
  | read (address : UInt16)
  | write (address : UInt16) (value : UInt8)
  | load (address : UInt16) (bytes : List UInt8)
  | collectStall
  | reset
  /-- Put a cartridge into a slot and reset. -/
  | mount (slot : String) (image : Array UInt8)
  /-- Put a cartridge into the slot without a reset. -/
  | insert (image : Array UInt8)
  | unmount (slot : String)
  /-- Do something to the cartridge, if there is one. -/
  | handle (change : Cartridge → Cartridge)
  | joystick (value : UInt8)
  | switches (value : UInt8)
  | configure (config : Config)
  | recolour (palette : Vector UInt32 16)
  /-- Restore a document, refused or not. -/
  | restore (document : Json)
  /-- Restore the chip's part of a document alone. -/
  | restoreChip (document : Json)

def Action.document? : Action → Option Json
  | .restore document | .restoreChip document => some document
  | _ => none

def perform (console : Console) : Action → Console
  | .read address => (console.read address).2
  | .write address value => console.write address value
  | .load address bytes => console.loadMemory address bytes
  | .collectStall => console.collectStall.2
  | .reset => console.reset
  | .mount slot image => (console.mount slot image).toOption.getD console
  | .insert image => (console.insertCartridge image).toOption.getD console
  | .unmount slot => (console.unmount slot).toOption.getD console
  | .handle change => console.modifyCartridge change
  | .joystick value => console.withChip (console.board.chip.withJoystick value)
  | .switches value => console.withChip (console.board.chip.withSwitches value)
  | .configure config => console.withChip (console.board.chip.withConfig config)
  | .recolour palette => console.withPalette palette
  | .restore document => ((restoreInPlace document).run.run console).2
  | .restoreChip document =>
      ((onChip (Chip.restoreInPlace (document.content .chip))).run.run console).2

def after (console : Console) (actions : List Action) : Console :=
  actions.foldl perform console

structure Step where
  before : Console
  action : Action

def Step.result (step : Step) : Console :=
  step.before.perform step.action

def steps (console : Console) : List Action → List Step
  | [] => []
  | action :: rest => ⟨console, action⟩ :: (console.perform action).steps rest

theorem after_concat (console : Console) (actions : List Action) (action : Action) :
    console.after (actions ++ [action]) = (console.after actions).perform action := by
  simp only [after, List.foldl_append, List.foldl_cons, List.foldl_nil]

theorem steps_concat (actions : List Action) (action : Action) :
    ∀ console : Console, console.steps (actions ++ [action])
      = console.steps actions ++ [⟨console.after actions, action⟩] := by
  induction actions with
  | nil => exact fun _ => rfl
  | cons first rest recurse =>
      intro console
      rw [List.cons_append, steps, recurse, steps, List.cons_append]
      rfl

/-! ## States that have been saved -/

/-- Documents that have been saved after some actions from power-on. Whatever was
restored on the way had been saved too. -/
inductive Saved : Json → Prop where
  | after (config : Config) (actions : List Action)
      (earlier : ∀ action ∈ actions, ∀ document, action.document? = some document →
        Saved document) :
      Saved ((powerOn config).after actions).save

/-- Actions that restore nothing but saved states. -/
def Genuine (actions : List Action) : Prop :=
  ∀ action ∈ actions, ∀ document, action.document? = some document → Saved document

/-- A document, if the action has one, is the saved state of a console with a
property. -/
def Action.From (Keeps : Console → Prop) (action : Action) : Prop :=
  ∀ document, action.document? = some document → ∃ saved, Keeps saved ∧ document = saved.save

section Keeping

variable {Keeps : Console → Prop}

theorem keeps_after
    (step : ∀ console action, Keeps console → action.From Keeps → Keeps (console.perform action))
    (actions : List Action) (restores : ∀ action ∈ actions, action.From Keeps) :
    ∀ console, Keeps console → Keeps (console.after actions) := by
  induction actions with
  | nil => exact fun _ keeps => keeps
  | cons action rest recurse =>
      intro console keeps
      apply recurse fun other among => restores other (List.mem_cons_of_mem _ among)
      exact step console action keeps (restores action List.mem_cons_self)

/-- **What holds at power-on and is kept by every action holds after all genuine
actions.** An action that restores need keep it only for documents that were
saved where it held. -/
theorem keeps_of_genuine (begins : ∀ config, Keeps (powerOn config))
    (step : ∀ console action, Keeps console → action.From Keeps → Keeps (console.perform action))
    (config : Config) {actions : List Action} (genuine : Genuine actions) :
    Keeps ((powerOn config).after actions) := by
  have saved : ∀ document, Saved document → ∃ console, Keeps console ∧ document = console.save := by
    intro document was
    induction was with
    | after config actions _ recurse =>
        exact ⟨_, keeps_after step actions recurse _ (begins config), rfl⟩
  apply keeps_after step actions _ _ (begins config)
  exact fun action among document has => saved document (genuine action among document has)

end Keeping

/-! ## Kinds of actions -/

/-- Whether an action writes a start to the chip, with the bus enabled or not. -/
def Action.requestsStart : Action → Bool
  | .write address value => address == startAddress && Byte.flagged value 0x01
  | _ => false

theorem requestsStart_iff {address : UInt16} {value : UInt8} :
    (Action.write address value).requestsStart = true
      ↔ address = startAddress ∧ Byte.flagged value 0x01 = true := by
  simp only [Action.requestsStart, Bool.and_eq_true, beq_iff_eq]

end Console

/-- What an action leaves of the engine's requests and charges when it asks for no
start. -/
structure Board.Undisturbed {socket : Type} (before after : Board socket) : Prop where
  charges : after.charges = before.charges
  spriteGo : after.chip.registers.spriteGo = before.chip.registers.spriteGo
  working : after.chip.registers.working = before.chip.registers.working

/-- What an action leaves that does not reach the chip. -/
structure Board.Untouched {socket : Type} (before after : Board socket) : Prop where
  charges : after.charges = before.charges
  chip : after.chip = before.chip

namespace Board

variable {socket : Type}

theorem Untouched.undisturbed {before after : Board socket} (untouched : before.Untouched after) :
    before.Undisturbed after where
  charges := untouched.charges
  spriteGo := by rw [untouched.chip]
  working := by rw [untouched.chip]

theorem untouched_readRegister [CartridgeSocket socket] (board : Board socket)
    (offset : UInt8) : board.Untouched (board.readRegister offset).2 := by
  unfold readRegister
  extract_lets registers
  cases Register.ofOffset offset <;> exact ⟨rfl, rfl⟩

theorem undisturbed_writeRegister [CartridgeSocket socket] (board : Board socket)
    {offset value : UInt8}
    (unasked : Register.ofOffset offset = .spriteGo → Byte.flagged value 0x01 = false) :
    board.Undisturbed (board.writeRegister offset value) := by
  unfold writeRegister
  extract_lets registers
  cases named : Register.ofOffset offset with
  | word register half => cases register <;> exact ⟨rfl, rfl, rfl⟩
  | byte register => cases register <;> exact ⟨rfl, rfl, rfl⟩
  | spriteGo =>
      simp only [writeGo, unasked named, Bool.false_eq_true, if_false, Bool.false_or]
      exact ⟨rfl, rfl, rfl⟩
  | _ => exact ⟨rfl, rfl, rfl⟩

end Board

namespace Console

theorem untouched_read (console : Console) (address : UInt16) :
    console.board.Untouched (console.read address).2.board := by
  obtain ⟨board, palette⟩ := console
  by_cases onPage : reachesChip address = true
  · simp only [read, onPage, if_true]
    exact board.untouched_readRegister _
  · simp only [read, onPage]
    exact ⟨rfl, rfl⟩

theorem undisturbed_write {console : Console} {address : UInt16} {value : UInt8}
    (unasked : (Action.write address value).requestsStart = false) :
    console.board.Undisturbed (console.write address value).board := by
  obtain ⟨board, palette⟩ := console
  by_cases onPage : reachesChip address = true
  · simp only [write, onPage, if_true]
    apply board.undisturbed_writeRegister
    intro named
    rw [← Bool.not_eq_true, requestsStart_iff] at unasked
    by_contra asked
    rw [Bool.not_eq_false] at asked
    exact unasked ⟨address_of_spriteGo onPage named, asked⟩
  · simp only [write, onPage]
    exact ⟨rfl, rfl, rfl⟩

/-- **A write lets the engine run, leaves a request that cannot be met, or asks for
no start.** -/
theorem write_cases (console : Console) (address : UInt16) (value : UInt8) :
    let asked := (Action.write address value).requestsStart
    let started := console.board.withRegisters (console.board.chip.registers.started value)
    let after := (console.write address value).board
    (asked = true ∧ console.board.chip.registers.busEnabled = true ∧ after = started.runSprites)
      ∨ (asked = true ∧ console.board.chip.registers.busEnabled = false
        ∧ Byte.flagged value 0x01 = true ∧ after = started.note [.startIgnored])
      ∨ (asked = false ∧ console.board.Undisturbed after) := by
  intro asked started after
  by_cases requested : asked = true
  · obtain ⟨rfl, starts⟩ := requestsStart_iff.1 requested
    cases enabled : console.board.chip.registers.busEnabled with
    | true => exact Or.inl ⟨requested, rfl, board_write_start enabled starts⟩
    | false =>
        refine Or.inr (Or.inl ⟨requested, rfl, starts, ?_⟩)
        exact (console.board_write_startAddress value).trans
          (Board.writeGo_of_disabled enabled starts)
  · rw [Bool.not_eq_true] at requested
    exact Or.inr (Or.inr ⟨requested, undisturbed_write requested⟩)

theorem untouched_insert (console : Console) (image : Array UInt8) :
    console.board.Untouched ((console.insertCartridge image).toOption.getD console).board := by
  unfold insertCartridge
  cases Cartridge.ofImage image with
  | ok cartridge => exact ⟨rfl, rfl⟩
  | error error => exact ⟨rfl, rfl⟩

theorem untouched_unmount (console : Console) (slot : String) :
    console.board.Untouched ((console.unmount slot).toOption.getD console).board := by
  unfold unmount
  by_cases known : slot = slotId
  · rw [if_pos known]
    exact ⟨rfl, rfl⟩
  · rw [if_neg known]
    exact ⟨rfl, rfl⟩

/-- A cartridge is mounted by a reset behind its being put in, if it fits. -/
theorem mount_cases (console : Console) (slot : String) (image : Array UInt8) :
    (∃ inserted : Console, console.mount slot image = .ok inserted.reset)
      ∨ ∃ error, console.mount slot image = .error error := by
  unfold mount
  by_cases known : slot = slotId
  · rw [if_pos known]
    cases console.insertCartridge image with
    | ok inserted => exact Or.inl ⟨inserted, rfl⟩
    | error error => exact Or.inr ⟨error, rfl⟩
  · rw [if_neg known]
    exact Or.inr ⟨_, rfl⟩

theorem charges_collectStall (console : Console) : console.collectStall.2.board.charges = [] := by
  rw [collectStall]
  split <;> rfl

theorem chip_collectStall (console : Console) :
    console.collectStall.2.board.chip = console.board.chip := by
  rw [collectStall]
  dsimp only
  split <;> rfl

/-- A document is restored as a whole or not at all. -/
theorem perform_restore (console : Console) (document : Json) :
    console.perform (.restore document)
      = match Snapshot.ofJson document with
        | .ok snapshot => console.resumed snapshot
        | .error _ => console := by
  rw [perform, run_restoreInPlace]
  cases Snapshot.ofJson document <;> rfl

theorem perform_restoreChip (console : Console) (document : Json) :
    console.perform (.restoreChip document)
      = match Chip.savedRegisters (document.content .chip) with
        | .ok registers => console.withChip ⟨registers, console.board.chip.config, none⟩
        | .error _ => console := by
  rw [perform]
  unfold onChip Chip.restoreInPlace
  cases Chip.savedRegisters (document.content .chip) <;> rfl

/-- The chip's part of a saved state gives the registers that were saved. -/
theorem savedRegisters_content_save (console : Console) :
    Chip.savedRegisters (console.save.content .chip) = .ok console.board.chip.registers :=
  Chip.savedRegisters_save console.board.chip

end Console

end LynxSuzy
