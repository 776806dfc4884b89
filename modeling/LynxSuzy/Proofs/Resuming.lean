import LynxSuzy.Proofs.Bounds
import LynxSuzy.Proofs.Charging

/-!
Contract: a run that its limit cut short can be gone on with.

Owns: the split of a run's budget, the run that two runs in a row come to, and
what it means over the bus: a start under one limit and the same start under
another are a start under their sum. A run that was not cut short is the same
under every larger limit.

Does **not** own: requests to stop, which end a run after its first sprite.
-/

set_option autoImplicit false

namespace LynxSuzy

namespace Chain

/-- **A budget can be spent in two parts**, unless a stop is requested. -/
theorem run_add (later budget : Nat) :
    ∀ walk : Walk, walk.registers.stopRequested = false →
      Walk.run (budget + later) walk = Walk.run later (Walk.run budget walk).1 := by
  induction budget with
  | zero =>
      intro walk _
      have still : (Walk.run 0 walk).1 = walk := by
        cases link : Link.ofAddress walk.registers.nextDescriptor with
        | idle => rw [run_of_idle 0 link]
        | active address => rw [run_of_capped link]
      rw [Nat.zero_add, still]
  | succ budget recurse =>
      intro walk unstopped
      rw [Nat.add_right_comm]
      cases link : Link.ofAddress walk.registers.nextDescriptor with
      | idle => rw [run_of_idle _ link, run_of_idle _ link, run_of_idle later link]
      | active address =>
          have goesOn := (stopRequested_visit walk address).trans unstopped
          rw [run_of_visit _ link goesOn, run_of_visit _ link goesOn]
          exact recurse (walk.visit address) goesOn

/-- **A run that is not cut short** is the same with a larger budget. -/
theorem run_of_le {budget : Nat} :
    ∀ {walk : Walk} {larger : Nat}, budget ≤ larger →
      (∀ address, (Walk.run budget walk).2 ≠ .capped address) →
      Walk.run larger walk = Walk.run budget walk := by
  induction budget with
  | zero =>
      intro walk larger _ uncut
      cases link : Link.ofAddress walk.registers.nextDescriptor with
      | idle => rw [run_of_idle _ link, run_of_idle _ link]
      | active address =>
          rw [run_of_capped link] at uncut
          exact absurd rfl (uncut address)
  | succ budget recurse =>
      intro walk larger le uncut
      obtain ⟨more, rfl⟩ : ∃ more, larger = more + 1 := ⟨larger - 1, by omega⟩
      cases link : Link.ofAddress walk.registers.nextDescriptor with
      | idle => rw [run_of_idle _ link, run_of_idle _ link]
      | active address =>
          cases stop : (walk.visit address).registers.stopRequested with
          | true => rw [run_of_stop _ link stop, run_of_stop _ link stop]
          | false =>
              rw [run_of_visit _ link stop] at uncut ⊢
              rw [run_of_visit _ link stop]
              exact recurse (Nat.le_of_succ_le_succ le) uncut

end Chain

/-! ## Two runs in a row -/

/-- The run that two runs come to, when the second begins where the first has
come to rest. -/
def Run.join (first second : Run) : Run where
  registers := { second.registers with working := first.registers.working }
  memory := second.memory.charged first.memory.accesses
  visits := first.visits ++ second.visits
  exit := second.exit

def RunAccount.join (first second : RunAccount) : RunAccount where
  sprites := first.sprites + second.sprites
  pixels := first.pixels + second.pixels
  accesses := first.accesses + second.accesses
  capped := second.capped

namespace Run

theorem ofRegisters_add (budget later : Nat) {registers : Registers} (memory : Memory)
    (unstopped : registers.stopRequested = false) :
    let first := ofRegisters budget registers memory
    ofRegisters (budget + later) registers memory
      = first.join
          (ofRegisters later { first.registers with working := false } first.memory.memory) := by
  intro first
  let walk : Chain.Walk := ⟨registers, Metered.fresh memory, []⟩
  let earlier := (Chain.Walk.run budget walk).1
  let rested : Chain.Walk :=
    ⟨{ earlier.registers with working := false }, Metered.fresh earlier.memory.memory, []⟩
  -- The first part is its own resting point behind what it has counted and visited.
  have resumed : earlier = rested.behind earlier := by
    have counted : (Metered.fresh earlier.memory.memory).charged earlier.memory.accesses
        = earlier.memory := by
      simp only [Metered.fresh, Metered.charged, Nat.zero_add]
    show earlier = ⟨_, _, _⟩
    rw [counted]
    rfl
  have split : Chain.Walk.run (budget + later) walk
      = ((Chain.Walk.run later rested).1.behind earlier, (Chain.Walk.run later rested).2) := by
    rw [Chain.run_add later budget walk unstopped, ← Chain.run_behind, ← resumed]
  have whole : ofRegisters (budget + later) registers memory
      = ⟨(Chain.Walk.run (budget + later) walk).1.registers,
          (Chain.Walk.run (budget + later) walk).1.memory,
          (Chain.Walk.run (budget + later) walk).1.visits,
          (Chain.Walk.run (budget + later) walk).2⟩ := rfl
  rw [whole, split]
  simp only [join, Chain.Walk.behind, Chain.Walk.visits, List.reverse_append]
  rfl

/-- The accounts of two runs in a row add up, as long as the counter of accesses
does not come to its end. -/
theorem account_join {first second : Run} (firstCounted : first.Counted)
    (secondCounted : second.Counted) (counted : (first.join second).Counted) :
    (first.join second).account = first.account.join second.account := by
  have accesses : (first.join second).account.accesses
      = first.account.accesses + second.account.accesses := by
    rw [counted.exact, firstCounted.exact, secondCounted.exact]
    exact Nat.add_comm _ _
  have sprites : (first.join second).account.sprites
      = first.account.sprites + second.account.sprites :=
    List.length_append
  have pixels : (first.join second).account.pixels
      = first.account.pixels + second.account.pixels := by
    simp only [account, join, List.map_append, total_eq_sum, List.sum_append]
  show RunAccount.mk _ _ (first.join second).account.accesses second.isCapped = _
  rw [accesses]
  show RunAccount.mk (first.join second).account.sprites (first.join second).account.pixels _ _ = _
  rw [sprites, pixels]
  rfl

/-- A run that its limit did not cut short has no use for a larger one. -/
theorem ofRegisters_of_uncut {limit larger : Nat} {registers : Registers} {memory : Memory}
    (uncut : (ofRegisters limit registers memory).isCapped = false) (le : limit ≤ larger) :
    ofRegisters larger registers memory = ofRegisters limit registers memory := by
  have finished : ∀ address,
      (Chain.Walk.run limit ⟨registers, Metered.fresh memory, []⟩).2 ≠ .capped address := by
    intro address capped
    have exit : (ofRegisters limit registers memory).exit = .capped address := capped
    unfold isCapped at uncut
    rw [exit] at uncut
    cases uncut
  unfold ofRegisters
  rw [Chain.run_of_le le finished]

theorem notices_of_uncut {run : Run} (uncut : run.isCapped = false) (address : UInt16)
    (limit larger : Nat) : run.notices address larger = run.notices address limit := by
  unfold notices
  unfold isCapped at uncut
  cases exit : run.exit with
  | capped last =>
      rw [exit] at uncut
      cases uncut
  | ended => rfl
  | stopped last => rfl

theorem started_settled {run : Run} {registers : Registers} {value : UInt8}
    (starts : Byte.flagged value 0x01 = true)
    (moved : run.registers = (registers.started value).movedTo run.registers) :
    run.settled.started value = { run.registers with working := false } := by
  unfold settled
  rw [moved]
  simp only [Registers.started, Registers.movedTo, starts, Bool.true_or]

end Run

/-! ## Starts under a limit -/

def Console.withConfig (console : Console) (config : Config) : Console :=
  console.withChip (console.board.chip.withConfig config)

/-- A board once a run that began at an address is over. -/
def Board.rested {socket : Type} (board : Board socket) (run : Run) (address : UInt16) :
    Board socket where
  chip := ⟨run.settled, board.chip.config, some run.account⟩
  memory := run.memory.memory
  socket := board.socket
  charges := run.account.accesses :: board.charges
  reversedNotices :=
    (run.notices address board.chip.config.budget).reverse ++ board.reversedNotices

theorem board_start {console : Console} {value : UInt8}
    (enabled : console.board.chip.registers.busEnabled = true)
    (starts : Byte.flagged value 0x01 = true) :
    (console.write Console.startAddress value).board
      = console.board.rested
          (Run.ofRegisters console.board.chip.config.budget
            (console.board.chip.registers.started value) console.board.memory)
          (console.board.chip.registers.started value).nextDescriptor :=
  board_write_start enabled starts

/-- A start on the registers that a run has left goes on where the run has stopped:
a start sets the flags that the end of a run clears. -/
theorem board_start_again {console : Console} {value : UInt8} {limit later : Nat}
    (enabled : console.board.chip.registers.busEnabled = true)
    (starts : Byte.flagged value 0x01 = true) :
    let registers := console.board.chip.registers.started value
    let run := Run.ofRegisters limit registers console.board.memory
    let first := (console.withConfig ⟨some limit⟩).write Console.startAddress value
    ((first.withConfig ⟨some later⟩).write Console.startAddress value).board
      = (first.withConfig ⟨some later⟩).board.rested
          (Run.ofRegisters later { run.registers with working := false } run.memory.memory)
          run.registers.nextDescriptor := by
  intro registers run first
  have begun : first.board = (console.withConfig ⟨some limit⟩).board.rested run
      registers.nextDescriptor :=
    @board_start (console.withConfig ⟨some limit⟩) value enabled starts
  have moved : run.registers = registers.movedTo run.registers :=
    Chain.registers_run limit ⟨registers, Metered.fresh console.board.memory, []⟩
  have settled : first.board.chip.registers = run.settled :=
    congrArg (fun board => board.chip.registers) begun
  have memory : first.board.memory = run.memory.memory := congrArg Board.memory begun
  have stillEnabled : first.board.chip.registers.busEnabled = true := by
    rw [settled]
    show run.registers.busEnabled = true
    rw [moved]
    exact enabled
  have again := @board_start (first.withConfig ⟨some later⟩) value stillEnabled starts
  have resumed : (first.withConfig ⟨some later⟩).board.chip.registers.started value
      = { run.registers with working := false } := by
    show first.board.chip.registers.started value = _
    rw [settled, Run.started_settled starts moved]
  have found : (first.withConfig ⟨some later⟩).board.memory = run.memory.memory := memory
  rw [again, resumed, found]
  rfl

/-- Starts under a limit that does not cut the run short and under a larger one. -/
theorem board_start_of_uncut {console : Console} {value : UInt8} {limit : Nat} {config : Config}
    (enabled : console.board.chip.registers.busEnabled = true)
    (starts : Byte.flagged value 0x01 = true)
    (uncut : (Run.ofRegisters limit (console.board.chip.registers.started value)
      console.board.memory).isCapped = false)
    (larger : limit ≤ config.budget) :
    ((console.withConfig config).write Console.startAddress value).board
      = (((console.withConfig ⟨some limit⟩).write Console.startAddress value).withConfig
          config).board := by
  let registers := console.board.chip.registers.started value
  let run := Run.ofRegisters limit registers console.board.memory
  have same : Run.ofRegisters config.budget registers console.board.memory = run :=
    Run.ofRegisters_of_uncut uncut larger
  have smallBoard : ((console.withConfig ⟨some limit⟩).write Console.startAddress value).board
      = (console.withConfig ⟨some limit⟩).board.rested run registers.nextDescriptor :=
    @board_start (console.withConfig ⟨some limit⟩) value enabled starts
  have largeBoard : ((console.withConfig config).write Console.startAddress value).board
      = (console.withConfig config).board.rested run registers.nextDescriptor := by
    rw [← same]
    exact @board_start (console.withConfig config) value enabled starts
  have notices := Run.notices_of_uncut uncut registers.nextDescriptor limit config.budget
  rw [largeBoard]
  show Board.mk ⟨_, config, _⟩ _ _ _
      ((run.notices registers.nextDescriptor config.budget).reverse ++ _)
    = let small := ((console.withConfig ⟨some limit⟩).write Console.startAddress value).board
      { small with chip := small.chip.withConfig config }
  rw [smallBoard, notices]
  rfl

/-- **A run that its limit cut short can be resumed without trace.** A start
under one limit and the same start under another leave the memory, the registers
and the cycles owed of a single start under the sum of the limits. The accounts
add up, and the run is cut short as a whole if it is in the second part. A run
that was not cut short is the same under every larger limit, and without one. -/
theorem start_resumes {console : Console} {value : UInt8} {limit later : Nat}
    (enabled : console.board.chip.registers.busEnabled = true)
    (unstopped : console.board.chip.registers.stopRequested = false)
    (starts : Byte.flagged value 0x01 = true) (small : limit + later ≤ 21870) :
    let first := (console.withConfig ⟨some limit⟩).write Console.startAddress value
    let second := (first.withConfig ⟨some later⟩).write Console.startAddress value
    let single := (console.withConfig ⟨some (limit + later)⟩).write Console.startAddress value
    second.board.memory = single.board.memory
      ∧ second.board.chip.registers = single.board.chip.registers
      ∧ second.board.owed = single.board.owed
      ∧ ∃ before after : RunAccount,
        first.board.chip.lastRun = some before ∧ second.board.chip.lastRun = some after
          ∧ single.board.chip.lastRun = some (before.join after)
          ∧ (before.capped = false → ∀ config : Config, limit ≤ config.budget →
            ((console.withConfig config).write Console.startAddress value).board
              = (first.withConfig config).board) := by
  intro first second single
  let registers := console.board.chip.registers.started value
  let run := Run.ofRegisters limit registers console.board.memory
  let rest := Run.ofRegisters later { run.registers with working := false } run.memory.memory
  have whole : Run.ofRegisters (limit + later) registers console.board.memory = run.join rest :=
    Run.ofRegisters_add limit later console.board.memory unstopped
  have joined : (run.join rest).account = run.account.join rest.account := by
    apply Run.account_join
    · exact Run.counted_of_limit (by omega) _ _
    · exact Run.counted_of_limit (by omega) _ _
    · rw [← whole]
      exact Run.counted_of_limit small _ _
  have firstBoard : first.board = (console.withConfig ⟨some limit⟩).board.rested run
      registers.nextDescriptor :=
    @board_start (console.withConfig ⟨some limit⟩) value enabled starts
  have secondBoard : second.board = (first.withConfig ⟨some later⟩).board.rested rest
      run.registers.nextDescriptor :=
    board_start_again enabled starts
  have singleBoard : single.board = (console.withConfig ⟨some (limit + later)⟩).board.rested
      (run.join rest) registers.nextDescriptor := by
    rw [← whole]
    exact @board_start (console.withConfig ⟨some (limit + later)⟩) value enabled starts
  have charged : first.board.charges = run.account.accesses :: console.board.charges :=
    congrArg Board.charges firstBoard
  rw [secondBoard, singleBoard]
  refine ⟨rfl, rfl, ?_, run.account, rest.account, ?_, rfl, ?_, ?_⟩
  · show total (rest.account.accesses :: first.board.charges)
      = total ((run.join rest).account.accesses :: console.board.charges)
    rw [charged, joined]
    simp only [RunAccount.join, total_eq_sum, List.sum_cons]
    omega
  · exact congrArg (fun board => board.chip.lastRun) firstBoard
  · rw [← joined]
    rfl
  · intro uncut config larger
    exact board_start_of_uncut enabled starts uncut larger

/-- A chain that closes on itself, cut short after its first sprite and gone on
with. -/
theorem closedChain_resumes :
    let first := (Console.closedChain.withConfig ⟨some 1⟩).write Console.startAddress 0x01
    let second := (first.withConfig ⟨some 2⟩).write Console.startAddress 0x01
    let single := (Console.closedChain.withConfig ⟨some 3⟩).write Console.startAddress 0x01
    second.board.memory = single.board.memory
      ∧ second.board.chip.registers = single.board.chip.registers
      ∧ second.board.owed = single.board.owed
      ∧ ∃ before after : RunAccount,
        first.board.chip.lastRun = some before ∧ second.board.chip.lastRun = some after
          ∧ single.board.chip.lastRun = some (before.join after) := by
  have enabled : Console.closedChain.board.chip.registers.busEnabled = true := rfl
  have unstopped : Console.closedChain.board.chip.registers.stopRequested = false := rfl
  have starts : Byte.flagged 0x01 0x01 = true := by decide
  have small : 1 + 2 ≤ 21870 := by decide
  obtain ⟨memory, registers, owed, before, after, first, second, single, _⟩ :=
    start_resumes enabled unstopped starts small
  exact ⟨memory, registers, owed, before, after, first, second, single⟩

end LynxSuzy
