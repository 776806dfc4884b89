import LynxSuzy.Memory

/-!
Contract: a memory that counts the byte-wide accesses made through it.

Owns: counted reads and writes. While the sprite engine owns the bus every byte
it touches passes through here, and the final count is what the processor is
charged. A word costs two accesses.

Does **not** own: the charge itself, which is made once a run is over
(`Board`).
-/

set_option autoImplicit false

namespace LynxSuzy

/-- The sum of some counts. -/
def total (counts : List Nat) : Nat :=
  counts.foldr (· + ·) 0

/-- RAM together with the number of accesses made to it so far. -/
structure Metered where
  memory : Memory
  /-- Byte-wide accesses so far. -/
  accesses : Nat

namespace Metered

/-- RAM nobody has touched yet. -/
def fresh (memory : Memory) : Metered := ⟨memory, 0⟩

/-- Read a byte, at the cost of one access. -/
def read (metered : Metered) (address : UInt16) : UInt8 × Metered :=
  (metered.memory.get address, ⟨metered.memory, metered.accesses + 1⟩)

/-- Read a little-endian word, at the cost of two accesses; the high byte's
address wraps. -/
def readWord (metered : Metered) (address : UInt16) : UInt16 × Metered :=
  let low := metered.read address
  let high := low.2.read (address + 1)
  (Word.ofBytes low.1 high.1, high.2)

/-- Read `count` consecutive bytes, at the cost of one access each. -/
def readBytes (metered : Metered) (address : UInt16) : Nat → List UInt8 × Metered
  | 0 => ([], metered)
  | count + 1 =>
      let first := metered.read address
      let rest := first.2.readBytes (address + 1) count
      (first.1 :: rest.1, rest.2)

/-- Write a byte, at the cost of one access. -/
def write (metered : Metered) (address : UInt16) (value : UInt8) : Metered :=
  ⟨metered.memory.set address value, metered.accesses + 1⟩

@[simp] theorem read_fst (metered : Metered) (address : UInt16) :
    (metered.read address).1 = metered.memory.get address := rfl

@[simp] theorem read_snd (metered : Metered) (address : UInt16) :
    (metered.read address).2 = ⟨metered.memory, metered.accesses + 1⟩ := rfl

@[simp] theorem readWord_fst (metered : Metered) (address : UInt16) :
    (metered.readWord address).1 = metered.memory.word address := rfl

@[simp] theorem readWord_snd (metered : Metered) (address : UInt16) :
    (metered.readWord address).2 = ⟨metered.memory, metered.accesses + 2⟩ := rfl

/-- **Reading bytes yields the slice of memory they occupy**, and changes
nothing but the count. -/
theorem readBytes_eq (count : Nat) :
    ∀ (metered : Metered) (address : UInt16),
      metered.readBytes address count
        = (metered.memory.slice address count,
            ⟨metered.memory, metered.accesses + count⟩) := by
  induction count with
  | zero => exact fun _ _ => rfl
  | succ count recurse =>
      intro metered address
      simp only [readBytes, recurse, read_fst, read_snd, Memory.slice]
      simp only [Nat.add_assoc, Nat.add_comm 1]

end Metered

end LynxSuzy
