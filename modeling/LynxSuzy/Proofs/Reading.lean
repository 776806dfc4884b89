import LynxSuzy.Sprite.Data
import Mathlib.Algebra.GroupWithZero.Nat

/-!
Contract: what a quadrant's data says, read from memory that nobody writes.

Owns: the reading of a quadrant as a value of its own, how far it leads the
cursor, the budget it keeps to, and the agreement of a quadrant that is passed
over with it. A reading depends only on the bytes that it goes through.

Does **not** own: quadrants that are drawn while they are read
(`Proofs.Trace`), or a sprite's quadrants in a row (`Proofs.Script`).
-/

set_option autoImplicit false

namespace LynxSuzy

theorem total_eq_sum (counts : List Nat) : total counts = counts.sum := rfl

namespace Memory

@[simp] theorem length_slice (memory : Memory) (count : Nat) :
    ∀ address : UInt16, (memory.slice address count).length = count := by
  induction count with
  | zero => exact fun _ => rfl
  | succ count recurse =>
      intro address
      rw [slice, List.length_cons, recurse]

theorem slice_congr {first second : Memory} (count : Nat) :
    ∀ address : UInt16,
      (∀ offset < count,
        first.get (address + UInt16.ofNat offset)
          = second.get (address + UInt16.ofNat offset)) →
      first.slice address count = second.slice address count := by
  induction count with
  | zero => exact fun _ _ => rfl
  | succ count recurse =>
      intro address agree
      have head : first.get address = second.get address := by
        simpa using agree 0 (Nat.succ_pos count)
      have tail : first.slice (address + 1) count = second.slice (address + 1) count := by
        apply recurse
        intro offset inside
        have shifted := agree (offset + 1) (Nat.succ_lt_succ inside)
        rwa [UInt16.ofNat_add, UInt16.add_comm (UInt16.ofNat offset), ← UInt16.add_assoc]
          at shifted
      rw [slice, slice, head, tail]

end Memory

namespace Sprite

namespace Cursor

@[simp] theorem advance_zero (cursor : Cursor) : cursor.advance 0 = cursor := by
  simp [advance]

theorem advance_advance (cursor : Cursor) (first second : Nat) :
    (cursor.advance first).advance second = cursor.advance (first + second) := by
  simp [advance, UInt16.ofNat_add, UInt16.add_assoc, Nat.add_assoc]

end Cursor

/-- A header promises at most 254 bytes, for it counts itself and is a byte. -/
theorem Header.count_le {byte : UInt8} {count : Nat} (promised : Header.ofByte byte = .line count) :
    count ≤ 254 := by
  have small := byte.toNat_lt
  unfold Header.ofByte at promised
  split at promised
  · cases promised
  · cases promised
  · rename_i length value
    cases promised
    omega

/-! ## Readings -/

/-- Bytes that are read to find how a quadrant ends. -/
def Ending.bytesRead : Ending → Nat
  | .quadrant | .sprite => 1
  | .overrun => 0

/-- Bytes of them that the cursor leaves behind. -/
def Ending.bytesPassed : Ending → Nat
  | .quadrant => 1
  | .sprite | .overrun => 0

theorem Ending.bytesPassed_le (ending : Ending) : ending.bytesPassed ≤ ending.bytesRead := by
  cases ending <;> decide

/-- What a quadrant's data says from some place on. -/
structure Reading where
  lines : List (List UInt8)
  ending : Ending
  deriving DecidableEq

namespace Reading

def cons (line : List UInt8) (reading : Reading) : Reading :=
  ⟨line :: reading.lines, reading.ending⟩

def lineBytes (reading : Reading) : Nat :=
  (reading.lines.map fun line => line.length + 1).sum

/-- Bytes gone through, the mark at the end included. -/
def bytes (reading : Reading) : Nat :=
  reading.lineBytes + reading.ending.bytesRead

def headers (reading : Reading) : Nat :=
  reading.lines.length + reading.ending.bytesRead

def cursorFrom (reading : Reading) (cursor : Cursor) : Cursor :=
  cursor.advance (reading.lineBytes + reading.ending.bytesPassed)

@[simp] theorem lineBytes_cons (line : List UInt8) (reading : Reading) :
    (reading.cons line).lineBytes = line.length + 1 + reading.lineBytes := by
  simp [cons, lineBytes]

@[simp] theorem bytes_cons (line : List UInt8) (reading : Reading) :
    (reading.cons line).bytes = line.length + 1 + reading.bytes := by
  simp only [bytes, lineBytes_cons, Nat.add_assoc]
  rfl

@[simp] theorem headers_cons (line : List UInt8) (reading : Reading) :
    (reading.cons line).headers = reading.headers + 1 := by
  simp only [headers, cons, List.length_cons]
  omega

@[simp] theorem ending_cons (line : List UInt8) (reading : Reading) :
    (reading.cons line).ending = reading.ending := rfl

theorem cursorFrom_cons (line : List UInt8) (reading : Reading) (cursor : Cursor) :
    (reading.cons line).cursorFrom cursor
      = reading.cursorFrom (cursor.advance (line.length + 1)) := by
  simp only [cursorFrom, lineBytes_cons, ending_cons, Cursor.advance_advance, Nat.add_assoc]

/-- An end of quadrant is passed, so the cursor comes to stand behind all bytes. -/
theorem cursorFrom_of_quadrant {reading : Reading} (goesOn : reading.ending = .quadrant)
    (cursor : Cursor) : reading.cursorFrom cursor = cursor.advance reading.bytes := by
  simp only [cursorFrom, bytes, goesOn, Ending.bytesPassed, Ending.bytesRead]

@[simp] theorem cursorFrom_end (ending : Ending) (cursor : Cursor) :
    (Reading.mk [] ending).cursorFrom cursor = cursor.advance ending.bytesPassed := by
  simp [cursorFrom, lineBytes]

@[simp] theorem headers_end (ending : Ending) :
    (Reading.mk [] ending).headers = ending.bytesRead := by
  simp [headers]

@[simp] theorem bytes_end (ending : Ending) :
    (Reading.mk [] ending).bytes = ending.bytesRead := by
  simp [bytes, lineBytes]

/-- The budget that a reading keeps to. A line is begun only inside the budget,
so nothing but the last line can reach beyond it. -/
structure WithinBudget (reading : Reading) (cursor : Cursor) : Prop where
  lineLength : ∀ line ∈ reading.lines, line.length ≤ 254
  ended : reading.ending ≠ .overrun → cursor.consumed + reading.lineBytes < Cursor.limit
  overran : reading.ending = .overrun →
    Cursor.limit ≤ cursor.consumed + reading.lineBytes
      ∧ (reading.lines = [] ∨ cursor.consumed + reading.lineBytes < Cursor.limit + 255)

theorem withinBudget_end {ending : Ending} {cursor : Cursor}
    (inside : ending ≠ .overrun ↔ cursor.consumed < Cursor.limit) :
    (Reading.mk [] ending).WithinBudget cursor where
  lineLength := by simp
  ended := by simpa [lineBytes] using inside.1
  overran := by
    intro overrun
    have beyond : Cursor.limit ≤ cursor.consumed := by
      apply Nat.le_of_not_lt
      intro still
      exact inside.2 still overrun
    exact ⟨by simpa [lineBytes] using beyond, Or.inl rfl⟩

theorem WithinBudget.cons {reading : Reading} {cursor : Cursor} {line : List UInt8}
    (begun : cursor.consumed < Cursor.limit) (short : line.length ≤ 254)
    (rest : reading.WithinBudget (cursor.advance (line.length + 1))) :
    (reading.cons line).WithinBudget cursor where
  lineLength := by
    intro other member
    rcases List.mem_cons.1 member with rfl | later
    · exact short
    · exact rest.lineLength other later
  ended := by
    intro goesOn
    have bound := rest.ended goesOn
    simp only [Cursor.consumed_advance] at bound
    rw [lineBytes_cons]
    omega
  overran := by
    intro overrun
    obtain ⟨reached, last⟩ := rest.overran overrun
    simp only [Cursor.consumed_advance] at reached last
    rw [lineBytes_cons]
    refine ⟨by omega, Or.inr ?_⟩
    rcases last with none | bound
    · have nothing : reading.lineBytes = 0 := by simp [lineBytes, none]
      omega
    · omega

/-- **A reading goes at most 254 bytes beyond the budget.** -/
theorem WithinBudget.bytes_le {reading : Reading} {cursor : Cursor}
    (within : reading.WithinBudget cursor) (begun : cursor.consumed ≤ Cursor.limit) :
    cursor.consumed + reading.bytes ≤ Cursor.limit + 254 := by
  unfold bytes
  cases ending : reading.ending with
  | quadrant =>
      have bound := within.ended (by simp [ending])
      simp only [Ending.bytesRead]
      omega
  | sprite =>
      have bound := within.ended (by simp [ending])
      simp only [Ending.bytesRead]
      omega
  | overrun =>
      have bound := (within.overran ending).2
      simp only [Ending.bytesRead]
      rcases bound with none | bound
      · have nothing : reading.lineBytes = 0 := by simp [lineBytes, none]
        omega
      · omega

/-- A quadrant that another may follow leaves the cursor inside the budget. -/
theorem WithinBudget.consumed_le {reading : Reading} {cursor : Cursor}
    (within : reading.WithinBudget cursor) (goesOn : reading.ending = .quadrant) :
    (reading.cursorFrom cursor).consumed ≤ Cursor.limit := by
  have bound := within.ended (by simp [goesOn])
  simp only [cursorFrom, Cursor.consumed_advance, goesOn, Ending.bytesPassed]
  omega

end Reading

/-! ## Reading a memory -/

def readLines (memory : Memory) (cursor : Cursor) : Reading :=
  if cursor.consumed < Cursor.limit then
    match Header.ofByte (memory.get cursor.address) with
    | .endOfSprite => ⟨[], .sprite⟩
    | .endOfQuadrant => ⟨[], .quadrant⟩
    | .line count =>
        (readLines memory (cursor.advance (count + 1))).cons
          (memory.slice (cursor.address + 1) count)
  else ⟨[], .overrun⟩
termination_by Cursor.limit - cursor.consumed
decreasing_by
  simp only [Cursor.consumed_advance]
  omega

section Cases

variable {memory : Memory} {cursor : Cursor}

theorem readLines_of_endOfSprite (begun : cursor.consumed < Cursor.limit)
    (found : Header.ofByte (memory.get cursor.address) = .endOfSprite) :
    readLines memory cursor = ⟨[], .sprite⟩ := by
  rw [readLines, if_pos begun, found]

theorem readLines_of_endOfQuadrant (begun : cursor.consumed < Cursor.limit)
    (found : Header.ofByte (memory.get cursor.address) = .endOfQuadrant) :
    readLines memory cursor = ⟨[], .quadrant⟩ := by
  rw [readLines, if_pos begun, found]

theorem readLines_of_line {count : Nat} (begun : cursor.consumed < Cursor.limit)
    (found : Header.ofByte (memory.get cursor.address) = .line count) :
    readLines memory cursor
      = (readLines memory (cursor.advance (count + 1))).cons
          (memory.slice (cursor.address + 1) count) := by
  rw [readLines, if_pos begun, found]

theorem readLines_of_limit (spent : ¬ cursor.consumed < Cursor.limit) :
    readLines memory cursor = ⟨[], .overrun⟩ := by
  rw [readLines, if_neg spent]

end Cases

theorem readLines_withinBudget (memory : Memory) (cursor : Cursor) :
    (readLines memory cursor).WithinBudget cursor := by
  induction cursor using readLines.induct memory with
  | case1 cursor begun found =>
      rw [readLines_of_endOfSprite begun found]
      exact Reading.withinBudget_end (by simpa using begun)
  | case2 cursor begun found =>
      rw [readLines_of_endOfQuadrant begun found]
      exact Reading.withinBudget_end (by simpa using begun)
  | case3 cursor begun count found recurse =>
      rw [readLines_of_line begun found]
      apply Reading.WithinBudget.cons begun
      · rw [Memory.length_slice]
        exact Header.count_le found
      · rwa [Memory.length_slice]
  | case4 cursor spent =>
      rw [readLines_of_limit spent]
      exact Reading.withinBudget_end (by simpa using Nat.le_of_not_lt spent)

/-- The addresses that a reading of so many bytes goes through. -/
def Cursor.covers (cursor : Cursor) (count : Nat) (address : UInt16) : Prop :=
  ∃ offset < count, address = cursor.address + UInt16.ofNat offset

theorem Cursor.covers_head {cursor : Cursor} {count : Nat} (some : 0 < count) :
    cursor.covers count cursor.address :=
  ⟨0, some, by simp⟩

theorem Cursor.covers_mono {cursor : Cursor} {fewer more : Nat} (le : fewer ≤ more)
    {address : UInt16} (covered : cursor.covers fewer address) : cursor.covers more address := by
  obtain ⟨offset, inside, place⟩ := covered
  exact ⟨offset, Nat.lt_of_lt_of_le inside le, place⟩

/-- What a line's continuation covers, the line covers too. -/
theorem Cursor.covers_of_advance {cursor : Cursor} {first count : Nat} {address : UInt16}
    (covered : (cursor.advance first).covers count address) :
    cursor.covers (first + count) address := by
  obtain ⟨offset, inside, rfl⟩ := covered
  refine ⟨first + offset, by omega, ?_⟩
  simp only [advance, UInt16.ofNat_add, UInt16.add_assoc]

theorem Cursor.covers_line {cursor : Cursor} {length count offset : Nat} (inside : offset < length) :
    cursor.covers (length + 1 + count) (cursor.address + 1 + UInt16.ofNat offset) := by
  refine ⟨offset + 1, by omega, ?_⟩
  rw [UInt16.ofNat_add, UInt16.add_comm (UInt16.ofNat offset), ← UInt16.add_assoc]
  rfl

/-- **A reading is settled by the bytes that it goes through.** -/
theorem readLines_congr {first second : Memory} (cursor : Cursor)
    (agree : ∀ address, cursor.covers (readLines first cursor).bytes address →
      second.get address = first.get address) :
    readLines second cursor = readLines first cursor := by
  induction cursor using readLines.induct first with
  | case1 cursor begun found =>
      rw [readLines_of_endOfSprite begun found] at agree ⊢
      apply readLines_of_endOfSprite begun
      rw [agree cursor.address (Cursor.covers_head (by decide)), found]
  | case2 cursor begun found =>
      rw [readLines_of_endOfQuadrant begun found] at agree ⊢
      apply readLines_of_endOfQuadrant begun
      rw [agree cursor.address (Cursor.covers_head (by decide)), found]
  | case3 cursor begun count found recurse =>
      rw [readLines_of_line begun found, Reading.bytes_cons, Memory.length_slice] at agree
      have head : second.get cursor.address = first.get cursor.address :=
        agree _ (Cursor.covers_head (by omega))
      have line : second.slice (cursor.address + 1) count
          = first.slice (cursor.address + 1) count := by
        apply Memory.slice_congr
        exact fun offset inside => agree _ (Cursor.covers_line inside)
      have rest := recurse fun address covered => agree address (Cursor.covers_of_advance covered)
      rw [readLines_of_line begun found, readLines_of_line begun (by rw [head, found]), rest, line]
  | case4 cursor spent =>
      rw [readLines_of_limit spent, readLines_of_limit spent]

/-- **Passing over a quadrant reads it.** It costs an access for each header and
leaves memory alone. -/
theorem skipLines_eq (memory : Metered) (cursor : Cursor) (headers : Nat) :
    skipLines memory cursor headers
      = let reading := readLines memory.memory cursor
        ⟨⟨memory.memory, memory.accesses + reading.headers⟩, reading.cursorFrom cursor,
          headers + reading.headers, reading.ending⟩ := by
  induction memory, cursor, headers using skipLines.induct with
  | case1 memory cursor headers begun head found =>
      simp only [head, Metered.read_fst] at found
      rw [readLines_of_endOfSprite begun found, skipLines, if_pos begun]
      simp only [Metered.read_fst, Metered.read_snd, found, Reading.cursorFrom_end,
        Reading.headers_end, Ending.bytesRead, Ending.bytesPassed, Cursor.advance_zero]
  | case2 memory cursor headers begun head found =>
      simp only [head, Metered.read_fst] at found
      rw [readLines_of_endOfQuadrant begun found, skipLines, if_pos begun]
      simp only [Metered.read_fst, Metered.read_snd, found, Reading.cursorFrom_end,
        Reading.headers_end, Ending.bytesRead, Ending.bytesPassed]
  | case3 memory cursor headers begun head count found recurse =>
      simp only [head, Metered.read_fst, Metered.read_snd] at found recurse
      rw [readLines_of_line begun found, skipLines, if_pos begun]
      simp only [Metered.read_fst, Metered.read_snd, found, recurse, Reading.cursorFrom_cons,
        Reading.headers_cons, Reading.ending_cons, Memory.length_slice]
      simp only [Nat.add_assoc, Nat.add_comm 1]
  | case4 memory cursor headers spent =>
      rw [readLines_of_limit spent, skipLines, if_neg spent]
      simp only [Reading.cursorFrom_end, Reading.headers_end, Ending.bytesRead,
        Ending.bytesPassed, Cursor.advance_zero, Nat.add_zero]

end Sprite

end LynxSuzy
