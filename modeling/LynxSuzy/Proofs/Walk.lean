import LynxSuzy.Console
import LynxSuzy.Proofs.Script

/-!
Contract: one visit of a walk, and what a whole run keeps because each visit
keeps it.

Owns: the descriptor that a visit reads, the drawing that it makes, and the
state that it leaves in the two cases that there are; the four ways in which a
run goes on from a walk; induction over the visits of a run; and the run that a
start brings about. Whatever the sprites of a run paint over, a visit works on
memory as it finds it.

Does **not** own: what visits cost (`Proofs.Costs`), or how much they can do
(`Proofs.Bounds`).
-/

set_option autoImplicit false

namespace LynxSuzy

/-- Registers with those that move during a run taken from others. -/
def Registers.movedTo (registers later : Registers) : Registers :=
  { registers with
    nextDescriptor := later.nextDescriptor
    control0 := later.control0
    control1 := later.control1
    collisionControl := later.collisionControl
    stopRequested := later.stopRequested
    collisions := later.collisions
    latches := later.latches }

namespace Chain

open Sprite (Descriptor Drawing Fetched Latches)

def depart (registers : Registers) (descriptor : Descriptor) (latches : Latches)
    (collisions : Collisions) : Registers :=
  { arrive registers descriptor latches with
    collisions := collisions
    nextDescriptor := descriptor.link }

/-- Leave the results of a drawing in the depository of its sprite. -/
def deposit (registers : Registers) (descriptor : Descriptor) (drawing : Drawing) : Metered :=
  let depository := descriptor.address + registers.collisionOffset
  let memory :=
    if collidable registers descriptor.control then
      depositCollision drawing.canvas.collisions descriptor.control depository
        drawing.canvas.memory
    else drawing.canvas.memory
  if registers.everOn then depositEverOn drawing.summary.everOnScreen depository memory else memory

def Walk.fetched (walk : Walk) (address : UInt16) : Fetched :=
  Descriptor.fetch walk.memory address walk.registers.latches

def Walk.drawing (walk : Walk) (address : UInt16) : Drawing :=
  let fetched := walk.fetched address
  Sprite.draw (scene walk.registers fetched.descriptor.control) fetched.descriptor fetched.latches
    ⟨fetched.memory, walk.registers.collisions⟩

/-- A skipped sprite hands on its link, and its control bytes stay behind. -/
theorem visit_of_skip {walk : Walk} {address : UInt16}
    (skips : (walk.fetched address).descriptor.control.skip = true) :
    walk.visit address
      = let fetched := walk.fetched address
        ⟨depart walk.registers fetched.descriptor fetched.latches walk.registers.collisions,
          fetched.memory,
          ⟨fetched.descriptor, fetched.latches,
            collidable walk.registers fetched.descriptor.control, none⟩ :: walk.reversedVisits⟩ := by
  obtain ⟨registers, memory, visits⟩ := walk
  unfold Walk.fetched at skips
  simp only [Walk.visit, skips, if_true]
  rfl

/-- A sprite is drawn before its results are left and its link is taken up. -/
theorem visit_of_draw {walk : Walk} {address : UInt16}
    (draws : (walk.fetched address).descriptor.control.skip = false) :
    walk.visit address
      = let fetched := walk.fetched address
        let drawing := walk.drawing address
        ⟨depart walk.registers fetched.descriptor drawing.latches drawing.canvas.collisions,
          deposit walk.registers fetched.descriptor drawing,
          ⟨fetched.descriptor, fetched.latches,
            collidable walk.registers fetched.descriptor.control, some drawing.summary⟩
              :: walk.reversedVisits⟩ := by
  obtain ⟨registers, memory, visits⟩ := walk
  unfold Walk.fetched at draws
  simp only [Walk.visit, draws, Bool.false_eq_true, if_false]
  rfl

section Steps

variable {walk : Walk} {address : UInt16}

theorem run_of_idle (budget : Nat)
    (idle : Link.ofAddress walk.registers.nextDescriptor = .idle) :
    Walk.run budget walk = (walk, .ended) := by
  unfold Walk.run
  rw [idle]

theorem run_of_capped (active : Link.ofAddress walk.registers.nextDescriptor = .active address) :
    Walk.run 0 walk = (walk, .capped address) := by
  unfold Walk.run
  rw [active]

theorem run_of_stop (budget : Nat)
    (active : Link.ofAddress walk.registers.nextDescriptor = .active address)
    (stop : (walk.visit address).registers.stopRequested = true) :
    Walk.run (budget + 1) walk = ((walk.visit address).grantStop, .stopped address) := by
  unfold Walk.run
  rw [active]
  simp only [stop, if_true]

theorem run_of_visit (budget : Nat)
    (active : Link.ofAddress walk.registers.nextDescriptor = .active address)
    (goesOn : (walk.visit address).registers.stopRequested = false) :
    Walk.run (budget + 1) walk = Walk.run budget (walk.visit address) := by
  rw [Walk.run, active]
  simp only [goesOn, Bool.false_eq_true, if_false]

end Steps

/-- **What each visit keeps holds at the end of a run**, which has no more visits
than its budget, and what holds of each visit on its own holds of all of them. -/
theorem run_spec (Keeps : Walk → Prop) (Relates : Visit → Prop)
    (granted : ∀ walk, Keeps walk → Keeps walk.grantStop)
    (step : ∀ walk address, Keeps walk →
      Keeps (walk.visit address)
        ∧ ∃ visit, (walk.visit address).reversedVisits = visit :: walk.reversedVisits
          ∧ Relates visit)
    (budget : Nat) :
    ∀ walk, Keeps walk →
      let after := (Walk.run budget walk).1
      Keeps after ∧ ∃ visits, after.visits = walk.visits ++ visits
        ∧ visits.length ≤ budget ∧ ∀ visit ∈ visits, Relates visit := by
  -- The budget alone gets less, as a visit can change every link behind it.
  induction budget with
  | zero =>
      intro walk keeps
      have same : (Walk.run 0 walk).1 = walk := by
        cases link : Link.ofAddress walk.registers.nextDescriptor with
        | idle => rw [run_of_idle 0 link]
        | active address => rw [run_of_capped link]
      rw [same]
      exact ⟨keeps, [], (List.append_nil _).symm, Nat.le_refl _, fun _ member => by cases member⟩
  | succ budget recurse =>
      intro walk keeps
      cases link : Link.ofAddress walk.registers.nextDescriptor with
      | idle =>
          rw [run_of_idle _ link]
          exact ⟨keeps, [], (List.append_nil _).symm, Nat.zero_le _, fun _ member => by cases member⟩
      | active address =>
          obtain ⟨kept, visit, visited, relates⟩ := step walk address keeps
          cases stop : (walk.visit address).registers.stopRequested with
          | true =>
              rw [run_of_stop budget link stop]
              refine ⟨granted _ kept, [visit], ?_, Nat.succ_le_succ (Nat.zero_le _), ?_⟩
              · simp only [Walk.visits, Walk.grantStop, visited, List.reverse_cons]
              · intro other member
                rwa [List.mem_singleton.1 member]
          | false =>
              rw [run_of_visit budget link stop]
              obtain ⟨keptAll, visits, all, few, relatesAll⟩ := recurse _ kept
              refine ⟨keptAll, visit :: visits, ?_, Nat.succ_le_succ few, ?_⟩
              · rw [all]
                simp only [Walk.visits, visited, List.reverse_cons, List.append_assoc,
                  List.singleton_append]
              · intro other member
                rcases List.mem_cons.1 member with rfl | later
                · exact relates
                · exact relatesAll other later

theorem registers_visit (walk : Walk) (address : UInt16) :
    (walk.visit address).registers = walk.registers.movedTo (walk.visit address).registers := by
  cases skips : (walk.fetched address).descriptor.control.skip with
  | true => rw [visit_of_skip skips]; rfl
  | false => rw [visit_of_draw skips]; rfl

/-- A request to stop is granted between visits, not by one. -/
theorem stopRequested_visit (walk : Walk) (address : UInt16) :
    (walk.visit address).registers.stopRequested = walk.registers.stopRequested := by
  cases skips : (walk.fetched address).descriptor.control.skip with
  | true => rw [visit_of_skip skips]; rfl
  | false => rw [visit_of_draw skips]; rfl

theorem exists_visit (walk : Walk) (address : UInt16) :
    ∃ visit, (walk.visit address).reversedVisits = visit :: walk.reversedVisits := by
  cases skips : (walk.fetched address).descriptor.control.skip with
  | true => rw [visit_of_skip skips]; exact ⟨_, rfl⟩
  | false => rw [visit_of_draw skips]; exact ⟨_, rfl⟩

/-- **A run changes none but the moving registers.** -/
theorem registers_run (budget : Nat) (walk : Walk) :
    let after := (Walk.run budget walk).1
    after.registers = walk.registers.movedTo after.registers :=
  (run_spec (fun after => after.registers = walk.registers.movedTo after.registers)
    (fun _ => True)
    (fun after kept => by
      show { after.registers with stopRequested := false } = _
      rw [kept]
      rfl)
    (fun before address kept => by
      have moved := registers_visit before address
      obtain ⟨visit, visited⟩ := exists_visit before address
      rw [kept] at moved
      exact ⟨moved, visit, visited, trivial⟩)
    budget walk rfl).1

/-- A visit leaves alone what the scene of a sprite takes from the registers. -/
theorem scene_visit (walk : Walk) (address : UInt16) (control : Sprite.Control) :
    scene (walk.visit address).registers control = scene walk.registers control := by
  rw [registers_visit]
  rfl

theorem everOn_visit (walk : Walk) (address : UInt16) :
    (walk.visit address).registers.everOn = walk.registers.everOn := by
  rw [registers_visit]
  rfl

end Chain

/-! ## Starts -/

def Console.startAddress : UInt16 := 0xFC91

def Registers.started (registers : Registers) (value : UInt8) : Registers :=
  { registers with
    everOn := Byte.flagged value 0x04
    spriteGo := Byte.flagged value 0x01 || registers.spriteGo }

theorem Board.writeGo_of_start {socket : Type} {board : Board socket} {value : UInt8}
    (enabled : board.chip.registers.busEnabled = true)
    (starts : Byte.flagged value 0x01 = true) :
    board.writeGo value
      = (board.withRegisters (board.chip.registers.started value)).runSprites := by
  unfold writeGo
  rw [if_pos starts]
  change (board.withRegisters (board.chip.registers.started value)).start = _
  unfold start
  exact if_pos enabled

/-- A start that may not use the bus is noted, and stays requested. -/
theorem Board.writeGo_of_disabled {socket : Type} {board : Board socket} {value : UInt8}
    (disabled : board.chip.registers.busEnabled = false)
    (starts : Byte.flagged value 0x01 = true) :
    board.writeGo value
      = (board.withRegisters (board.chip.registers.started value)).note [.startIgnored] := by
  unfold writeGo
  rw [if_pos starts]
  change (board.withRegisters (board.chip.registers.started value)).start = _
  unfold start
  exact if_neg (Bool.eq_false_iff.1 disabled)

theorem Console.board_write_startAddress (console : Console) (value : UInt8) :
    (console.write Console.startAddress value).board = console.board.writeGo value := by
  obtain ⟨board, palette⟩ := console
  have reached : Console.reachesChip Console.startAddress = true := by decide
  have found : Register.ofOffset (Word.byte Console.startAddress .low) = .spriteGo := by decide
  simp only [Console.write, reached, if_true, Board.writeRegister, found]

/-- **A start with the bus enabled runs the engine** before the write returns. -/
theorem board_write_start {console : Console} {value : UInt8}
    (enabled : console.board.chip.registers.busEnabled = true)
    (starts : Byte.flagged value 0x01 = true) :
    (console.write Console.startAddress value).board
      = (console.board.withRegisters (console.board.chip.registers.started value)).runSprites := by
  rw [Console.board_write_startAddress]
  exact Board.writeGo_of_start enabled starts

end LynxSuzy
