import LynxSuzy.Proofs.Bounds
import LynxSuzy.Proofs.Layout
import Mathlib.Logic.Function.Iterate

/-!
Contract: where a run goes and why it ends.

Owns: the descriptors that a walk comes to when it takes up one link after
another, the reasons for a run to end in the order in which they count, and the
run as the walk up to the first of them. A link is taken up as it stands when its
descriptor is visited, so the sprites before can have turned it elsewhere.

Does **not** own: what is drawn on the way (`Proofs.Walk`), or what a limit that
cut a run short left to do (`Proofs.Resuming`).
-/

set_option autoImplicit false

namespace LynxSuzy

theorem Word.high_eq_zero_iff (word : UInt16) :
    Word.byte word .high = 0 ↔ word &&& (0xFF00 : UInt16) = 0 := by
  have small := word.toNat_lt
  have shift : (8 : UInt16).toNat % 16 = 8 := by decide
  have byteZero : (0 : UInt8).toNat = 0 := rfl
  have wordZero : (0 : UInt16).toNat = 0 := rfl
  rw [Word.and_high, Word.byte, ← UInt8.toNat_inj, ← UInt16.toNat_inj]
  simp only [UInt16.toNat_toUInt8, UInt16.toNat_shiftRight, UInt16.toNat_shiftLeft, shift,
    Nat.shiftRight_eq_div_pow, Nat.shiftLeft_eq]
  omega

namespace Chain

open Sprite (Descriptor)

theorem Link.ofAddress_of_high {address : UInt16} (onward : Word.byte address .high ≠ 0) :
    Link.ofAddress address = .active address :=
  if_neg (mt (Word.high_eq_zero_iff address).2 onward)

theorem Link.ofAddress_of_low {address : UInt16} (nowhere : Word.byte address .high = 0) :
    Link.ofAddress address = .idle :=
  if_pos ((Word.high_eq_zero_iff address).1 nowhere)

/-! ## From link to link -/

namespace Walk

/-- The walk one visit further, at the descriptor that its registers point to. -/
def follow (walk : Walk) : Walk :=
  walk.visit walk.registers.nextDescriptor

/-- The walk after so many visits from link to link, also where a run would have
ended. -/
def after (walk : Walk) (visits : Nat) : Walk :=
  follow^[visits] walk

def destination (walk : Walk) (visits : Nat) : UInt16 :=
  (walk.after visits).registers.nextDescriptor

def memoryAfter (walk : Walk) (visits : Nat) : Memory :=
  (walk.after visits).memory.memory

variable {walk : Walk} {visits : Nat}

theorem after_succ (walk : Walk) (visits : Nat) :
    walk.after (visits + 1) = walk.follow.after visits :=
  Function.iterate_succ_apply follow visits walk

theorem after_succ_last (walk : Walk) (visits : Nat) :
    walk.after (visits + 1) = (walk.after visits).visit (walk.destination visits) :=
  Function.iterate_succ_apply' follow visits walk

theorem destination_succ (walk : Walk) (visits : Nat) :
    walk.destination (visits + 1) = walk.follow.destination visits := by
  rw [destination, after_succ, destination]

end Walk

/-- What a visit takes up is what the descriptor holds when it comes. -/
theorem descriptor_fetched (walk : Walk) (address : UInt16) :
    (walk.fetched address).descriptor = Descriptor.ofMemory walk.memory.memory address := by
  unfold Walk.fetched
  cases skips : (Descriptor.ofMemory walk.memory.memory address).control.skip with
  | true => rw [Sprite.fetch_of_skip _ skips]
  | false => rw [Sprite.fetch_of_draws _ skips]

/-- What a visit leaves of the descriptor that it found, whatever it draws. -/
structure TakesUp (after : Walk) (found : Descriptor) : Prop where
  link : after.registers.nextDescriptor = found.link
  control0 : after.registers.control0 = found.control0
  control1 : after.registers.control1 = found.control1
  collision : after.registers.collisionControl = found.collision

theorem takesUp_visit (walk : Walk) (address : UInt16) :
    TakesUp (walk.visit address) (Descriptor.ofMemory walk.memory.memory address) := by
  rw [← descriptor_fetched walk address]
  cases skips : (walk.fetched address).descriptor.control.skip with
  | true =>
      rw [visit_of_skip skips]
      exact ⟨rfl, rfl, rfl, rfl⟩
  | false =>
      rw [visit_of_draw skips]
      exact ⟨rfl, rfl, rfl, rfl⟩

theorem takesUp_after (walk : Walk) (visits : Nat) :
    TakesUp (walk.after (visits + 1))
      (Descriptor.ofMemory (walk.memoryAfter visits) (walk.destination visits)) := by
  rw [walk.after_succ_last]
  exact takesUp_visit _ _

def Walk.report (walk : Walk) (address : UInt16) : Visit where
  descriptor := (walk.fetched address).descriptor
  latches := (walk.fetched address).latches
  collidable := collidable walk.registers (walk.fetched address).descriptor.control
  summary :=
    if (walk.fetched address).descriptor.control.skip then none
    else some (walk.drawing address).summary

theorem visits_visit (walk : Walk) (address : UInt16) :
    (walk.visit address).visits = walk.visits ++ [walk.report address] := by
  unfold Walk.visits Walk.report
  cases skips : (walk.fetched address).descriptor.control.skip with
  | true => rw [visit_of_skip skips, List.reverse_cons, if_pos rfl]
  | false => rw [visit_of_draw skips, List.reverse_cons, if_neg Bool.false_ne_true]

/-- The visits of a walk are those it makes on its way, each reported by the walk
as far as it had come. -/
theorem visits_after (walk : Walk) (visits : Nat) :
    (walk.after visits).visits
      = walk.visits
        ++ (List.range visits).map fun index =>
            (walk.after index).report (walk.destination index) := by
  induction visits with
  | zero => exact (List.append_nil _).symm
  | succ visits recurse =>
      rw [walk.after_succ_last, visits_visit, recurse, List.range_succ, List.map_append,
        List.append_assoc]
      rfl

/-! ## Reasons to end -/

namespace Walk

/-- Why a run is over after so many visits, if it is: because a stop had been
requested and one sprite has been visited, else because the link leads nowhere,
else because the limit is reached. -/
def exit? (begun : Walk) (limit visits : Nat) : Option Exit :=
  if begun.registers.stopRequested ∧ visits = 1 then some (.stopped (begun.destination 0))
  else if Word.byte (begun.destination visits) .high = 0 then some .ended
  else if visits = limit then some (.capped (begun.destination visits))
  else none

/-- The first number of visits at which there is a reason to end, and the reason. -/
structure EndsAfter (begun : Walk) (limit visits : Nat) (exit : Exit) : Prop where
  before : ∀ fewer < visits, begun.exit? limit fewer = none
  reached : begun.exit? limit visits = some exit

section Reasons

variable {begun : Walk} {limit visits : Nat}

theorem exit?_of_nowhere (nowhere : Word.byte (begun.destination 0) .high = 0) :
    begun.exit? limit 0 = some .ended := by
  have first : ¬(begun.registers.stopRequested ∧ 0 = 1) := fun both => Nat.zero_ne_one both.2
  rw [exit?, if_neg first, if_pos nowhere]

theorem exit?_of_spent (onward : Word.byte (begun.destination 0) .high ≠ 0) :
    begun.exit? 0 0 = some (.capped (begun.destination 0)) := by
  have first : ¬(begun.registers.stopRequested ∧ 0 = 1) := fun both => Nat.zero_ne_one both.2
  rw [exit?, if_neg first, if_neg onward, if_pos rfl]

theorem exit?_of_begun (onward : Word.byte (begun.destination 0) .high ≠ 0) :
    begun.exit? (limit + 1) 0 = none := by
  have first : ¬(begun.registers.stopRequested ∧ 0 = 1) := fun both => Nat.zero_ne_one both.2
  rw [exit?, if_neg first, if_neg onward, if_neg (Nat.succ_ne_zero limit).symm]

theorem exit?_of_stop (stop : begun.registers.stopRequested = true) :
    begun.exit? limit 1 = some (.stopped (begun.destination 0)) :=
  if_pos ⟨stop, rfl⟩

/-- Without a request to stop a first visit only leaves less to do. -/
theorem exit?_succ (unstopped : begun.registers.stopRequested = false) :
    begun.exit? (limit + 1) (visits + 1) = begun.follow.exit? limit visits := by
  have still : begun.follow.registers.stopRequested = false :=
    (stopRequested_visit begun _).trans unstopped
  simp only [exit?, unstopped, still, Bool.false_eq_true, false_and, if_false, destination_succ,
    Nat.add_right_cancel_iff]

theorem endsAfter_at_once {exit : Exit} (reason : begun.exit? limit 0 = some exit) :
    begun.EndsAfter limit 0 exit :=
  ⟨fun _ fewer => absurd fewer (Nat.not_lt_zero _), reason⟩

theorem EndsAfter.succ {exit : Exit} (unstopped : begun.registers.stopRequested = false)
    (onward : Word.byte (begun.destination 0) .high ≠ 0)
    (rest : begun.follow.EndsAfter limit visits exit) :
    begun.EndsAfter (limit + 1) (visits + 1) exit := by
  refine ⟨?_, (exit?_succ unstopped).trans rest.reached⟩
  intro fewer less
  cases fewer with
  | zero => exact exit?_of_begun onward
  | succ fewer =>
      rw [exit?_succ unstopped]
      exact rest.before fewer (Nat.lt_of_succ_lt_succ less)

/-- There is one such number of visits, and one reason. -/
theorem EndsAfter.unique {others : Nat} {exit other : Exit}
    (first : begun.EndsAfter limit visits exit) (second : begun.EndsAfter limit others other) :
    visits = others ∧ exit = other := by
  have noFewer : ∀ {less more : Nat} {sooner later : Exit}, begun.EndsAfter limit less sooner →
      begun.EndsAfter limit more later → ¬less < more := by
    intro less more sooner later ended goesOn before
    have none := goesOn.before less before
    rw [ended.reached] at none
    cases none
  have same : visits = others := by
    have forward := noFewer first second
    have backward := noFewer second first
    omega
  subst same
  exact ⟨rfl, Option.some.inj (first.reached.symm.trans second.reached)⟩

/-- As long as a run goes on, its links lead somewhere. -/
theorem EndsAfter.onward {exit : Exit} (ends : begun.EndsAfter limit visits exit) {index : Nat}
    (visited : index < visits) : Word.byte (begun.destination index) .high ≠ 0 := by
  intro nowhere
  have none := ends.before index visited
  by_cases stopped : begun.registers.stopRequested ∧ index = 1
  · rw [exit?, if_pos stopped] at none
    cases none
  · rw [exit?, if_neg stopped, if_pos nowhere] at none
    cases none

end Reasons

def withStop (walk : Walk) (requested : Bool) : Walk :=
  { walk with registers := { walk.registers with stopRequested := requested } }

end Walk

/-- **A run is the walk up to the first reason to end.** A request to stop is
granted by its first visit. -/
theorem run_eq_after (limit : Nat) :
    ∀ begun : Walk, ∃ visits exit, begun.EndsAfter limit visits exit
      ∧ Walk.run limit begun
        = ((begun.after visits).withStop (begun.registers.stopRequested && visits == 0), exit) := by
  have untouched (begun : Walk) :
      (begun.after 0).withStop (begun.registers.stopRequested && (0 == 0)) = begun := by
    rw [beq_self_eq_true, Bool.and_true]
    rfl
  induction limit with
  | zero =>
      intro begun
      by_cases nowhere : Word.byte begun.registers.nextDescriptor .high = 0
      · refine ⟨0, .ended, Walk.endsAfter_at_once (Walk.exit?_of_nowhere nowhere), ?_⟩
        rw [run_of_idle 0 (Link.ofAddress_of_low nowhere), untouched]
      · refine ⟨0, _, Walk.endsAfter_at_once (Walk.exit?_of_spent nowhere), ?_⟩
        rw [run_of_capped (Link.ofAddress_of_high nowhere), untouched]
        rfl
  | succ limit recurse =>
      intro begun
      by_cases nowhere : Word.byte begun.registers.nextDescriptor .high = 0
      · refine ⟨0, .ended, Walk.endsAfter_at_once (Walk.exit?_of_nowhere nowhere), ?_⟩
        rw [run_of_idle _ (Link.ofAddress_of_low nowhere), untouched]
      · have active := Link.ofAddress_of_high nowhere
        have kept := stopRequested_visit begun begun.registers.nextDescriptor
        cases stop : begun.registers.stopRequested with
        | true =>
            refine ⟨1, _, ⟨?_, Walk.exit?_of_stop stop⟩, run_of_stop limit active (kept.trans stop)⟩
            intro fewer less
            rw [Nat.lt_one_iff.1 less]
            exact Walk.exit?_of_begun nowhere
        | false =>
            obtain ⟨visits, exit, ends, ran⟩ := recurse begun.follow
            refine ⟨visits + 1, exit, ends.succ stop nowhere, ?_⟩
            rw [run_of_visit limit active (kept.trans stop), begun.after_succ]
            exact ran.trans (by
              rw [show begun.follow.registers.stopRequested = false from kept.trans stop,
                Bool.false_and, Bool.false_and])

theorem ofRegisters_of_run {budget : Nat} {registers : Registers} {memory : Memory} {walk : Walk}
    {exit : Exit} (ran : Walk.run budget ⟨registers, Metered.fresh memory, []⟩ = (walk, exit)) :
    Run.ofRegisters budget registers memory
      = ⟨walk.registers, walk.memory, walk.visits, exit⟩ := by
  rw [Run.ofRegisters, ran]

/-- The visits of a run are those of the walk from link to link. -/
theorem visits_ofRegisters (budget : Nat) (registers : Registers) (memory : Memory) :
    let begun : Walk := ⟨registers, Metered.fresh memory, []⟩
    ∃ count, (Run.ofRegisters budget registers memory).visits
      = (List.range count).map fun index =>
          (begun.after index).report (begun.destination index) := by
  intro begun
  obtain ⟨count, exit, _, ran⟩ := run_eq_after budget begun
  refine ⟨count, ?_⟩
  rw [ofRegisters_of_run ran]
  exact visits_after begun count

/-! ## What a run goes through and leaves -/

/-- The descriptors that a run has visited: each where the link before it led,
with the link as it stood then. -/
structure Walk.Travels (begun : Walk) (visits : List Visit) : Prop where
  onward : ∀ index < visits.length, Word.byte (begun.destination index) .high ≠ 0
  linked : ∀ index < visits.length, begun.destination (index + 1)
    = (begun.memoryAfter index).word (begun.destination index + 3)
  visited : visits.map Visit.descriptor = (List.range visits.length).map fun index =>
    Descriptor.ofMemory (begun.memoryAfter index) (begun.destination index)

/-- What a run of so many visits leaves in the registers. -/
structure Walk.Leaves (begun : Walk) (visits : Nat) (registers : Registers) : Prop where
  nextDescriptor : registers.nextDescriptor = begun.destination visits
  /-- The control bytes are those of the last descriptor, as they were read. -/
  control : ∀ last, visits = last + 1 →
    registers.control0 = (begun.memoryAfter last).get (begun.destination last)
      ∧ registers.control1 = (begun.memoryAfter last).get (begun.destination last + 1)
      ∧ registers.collisionControl = (begun.memoryAfter last).get (begun.destination last + 2)
  untouched : visits = 0 →
    registers.control0 = begun.registers.control0
      ∧ registers.control1 = begun.registers.control1
      ∧ registers.collisionControl = begun.registers.collisionControl
  stop : registers.stopRequested = true ↔ begun.registers.stopRequested = true ∧ visits = 0

theorem Walk.leaves_after (begun : Walk) (visits : Nat) :
    begun.Leaves visits
      ((begun.after visits).withStop (begun.registers.stopRequested && visits == 0)).registers where
  nextDescriptor := rfl
  control := by
    rintro last rfl
    have taken := takesUp_after begun last
    exact ⟨taken.control0, taken.control1, taken.collision⟩
  untouched := by
    rintro rfl
    exact ⟨rfl, rfl, rfl⟩
  stop := by simp [Walk.withStop]

/-- Registers that differ only in what the end of a run clears are left alike. -/
theorem Walk.Leaves.settled {begun : Walk} {visits : Nat} {run : Run}
    (leaves : begun.Leaves visits run.registers) : begun.Leaves visits run.settled :=
  ⟨leaves.nextDescriptor, leaves.control, leaves.untouched, leaves.stop⟩

end Chain

def Console.setsOut (console : Console) (value : UInt8) : Chain.Walk :=
  ⟨console.board.chip.registers.started value, Metered.fresh console.board.memory, []⟩

/-- **A start follows the links and ends for one reason.** The run begins where
the register points and takes up each link as it stands when its descriptor is
visited. It ends the first time that there is a reason to: a stop that had been
requested, once one sprite has been visited; else a link that leads nowhere; else
the limit, and only then is it cut short. The registers are left with the last
link and the last control bytes that were read, and a request to stop is still
there only if no sprite has been visited. -/
theorem start_follows_links {console : Console} {value : UInt8} {limit : Nat}
    (enabled : console.board.chip.registers.busEnabled = true)
    (limited : console.board.chip.config.spriteLimit = some limit)
    (starts : Byte.flagged value 0x01 = true) :
    let begun := console.setsOut value
    let run := Run.ofRegisters limit (console.board.chip.registers.started value)
      console.board.memory
    let after := (console.write Console.startAddress value).board
    ∃ visits exit, begun.EndsAfter limit visits exit
      ∧ begun.destination 0 = console.board.chip.registers.nextDescriptor
      ∧ begun.Travels run.visits
      ∧ begun.Leaves visits after.chip.registers
      ∧ after.memory = begun.memoryAfter visits
      ∧ after.chip.lastRun = some run.account
      ∧ run.visits.length = visits
      ∧ run.account.sprites = visits
      ∧ (run.account.capped = true ↔ ∃ address, exit = .capped address) := by
  intro begun run after
  obtain ⟨visits, exit, ends, ran⟩ := Chain.run_eq_after limit begun
  let last := (begun.after visits).withStop (begun.registers.stopRequested && visits == 0)
  have whole : run = ⟨last.registers, last.memory, last.visits, exit⟩ :=
    Chain.ofRegisters_of_run ran
  have left : after = (console.board.withRegisters
      (console.board.chip.registers.started value)).runSprites := board_write_start enabled starts
  have budget : console.board.chip.config.budget = limit := by
    rw [Config.budget, limited, Option.getD_some]
  have account : after.chip.lastRun = some run.account
      ∧ after.chip.registers = run.settled ∧ after.memory = run.memory.memory := by
    rw [left]
    simp only [run, ← budget]
    exact ⟨rfl, rfl, rfl⟩
  have visited : run.visits = (List.range visits).map fun index =>
      (begun.after index).report (begun.destination index) := by
    rw [whole]
    exact Chain.visits_after begun visits
  have count : run.visits.length = visits := by
    rw [visited, List.length_map, List.length_range]
  refine ⟨visits, exit, ends, rfl, ⟨?_, ?_, ?_⟩, ?_, ?_, account.1, count, count, ?_⟩
  · intro index inside
    exact ends.onward (count ▸ inside)
  · intro index _
    exact (Chain.takesUp_after begun index).link
  · rw [count, visited, List.map_map]
    apply List.map_congr_left
    intro index _
    exact Chain.descriptor_fetched _ _
  · rw [account.2.1]
    apply Chain.Walk.Leaves.settled
    rw [whole]
    exact begun.leaves_after visits
  · rw [account.2.2, whole]
    rfl
  · rw [whole]
    cases exit <;> simp [Run.account, Run.isCapped]

/-- The chain that closes on itself, with a stop requested. -/
def Console.stopping : Console :=
  let registers := { Console.closedChain.board.chip.registers with stopRequested := true }
  { Console.closedChain with board := Console.closedChain.board.withRegisters registers }

/-- The first visit grants the request, at a descriptor whose link leads on. -/
theorem stopping_follows_link :
    let after := (Console.stopping.write Console.startAddress 0x01).board
    (∃ account, after.chip.lastRun = some account ∧ account.sprites = 1
        ∧ account.capped = false)
      ∧ after.chip.registers.nextDescriptor = 0x2020
      ∧ after.chip.registers.stopRequested = false := by
  intro after
  have enabled : Console.stopping.board.chip.registers.busEnabled = true := rfl
  have limited : Console.stopping.board.chip.config.spriteLimit = some 21870 := rfl
  have starts : Byte.flagged 0x01 0x01 = true := by decide
  obtain ⟨visits, exit, ends, first, travels, leaves, _, ran, count, sprites, capped⟩ :=
    start_follows_links enabled limited starts
  have onward : Word.byte ((Console.stopping.setsOut 0x01).destination 0) .high ≠ 0 := by
    rw [first]
    decide
  have stopped : (Console.stopping.setsOut 0x01).EndsAfter 21870 1 (.stopped 0x2020) := by
    refine ⟨?_, Chain.Walk.exit?_of_stop rfl⟩
    intro fewer less
    rw [Nat.lt_one_iff.1 less]
    exact Chain.Walk.exit?_of_begun onward
  obtain ⟨rfl, rfl⟩ := ends.unique stopped
  refine ⟨⟨_, ran, sprites, ?_⟩, ?_, ?_⟩
  · rw [← Bool.not_eq_true, capped]
    rintro ⟨address, same⟩
    cases same
  · have visited : 0 < (Run.ofRegisters 21870
        (Console.stopping.board.chip.registers.started 0x01)
        Console.stopping.board.memory).visits.length := by
      rw [count]
      exact Nat.one_pos
    have filled (address : UInt16) :
        ((Console.stopping.setsOut 0x01).memoryAfter 0).get address = 0x20 :=
      Memory.get_filled 0x20 address
    rw [leaves.nextDescriptor, travels.linked 0 visited, Memory.word, filled, filled]
    decide
  · rw [← Bool.not_eq_true, leaves.stop]
    exact fun both => Nat.one_ne_zero both.2

end LynxSuzy
