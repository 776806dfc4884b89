import LynxSuzy.Word

/-!
Contract: the console's RAM, one byte for each of the 65536 addresses.

Owns: reading, writing and bulk loading. Addresses are 16-bit words, so every
address exists and arithmetic on addresses wraps at the top of memory; there is
no out-of-range access to model.

Does **not** own: what an access costs (`Memory.Metered`) or which addresses a
chip answers instead of RAM (`Console`).
-/

set_option autoImplicit false

namespace LynxSuzy

/-- 64K of RAM. -/
structure Memory where
  /-- The bytes by address. -/
  bytes : Vector UInt8 UInt16.size

namespace Memory

/-- RAM that holds one value everywhere. -/
def filled (value : UInt8) : Memory :=
  ⟨Vector.replicate UInt16.size value⟩

def get (memory : Memory) (address : UInt16) : UInt8 :=
  getElem memory.bytes address.toNat address.toNat_lt_size

def set (memory : Memory) (address : UInt16) (value : UInt8) : Memory :=
  ⟨memory.bytes.set address.toNat value address.toNat_lt_size⟩

/-- The little-endian word at an address; its high byte wraps. -/
def word (memory : Memory) (address : UInt16) : UInt16 :=
  Word.ofBytes (memory.get address) (memory.get (address + 1))

/-- The memory with consecutive bytes replaced, wrapping at the top. Where the
bytes go round more than once the later ones win. -/
def load (memory : Memory) (address : UInt16) : List UInt8 → Memory
  | [] => memory
  | value :: rest => (memory.set address value).load (address + 1) rest

/-- `count` bytes from an address on, wrapping at the top. -/
def slice (memory : Memory) (address : UInt16) : Nat → List UInt8
  | 0 => []
  | count + 1 => memory.get address :: memory.slice (address + 1) count

/-- All bytes in address order. -/
def toList (memory : Memory) : List UInt8 :=
  memory.bytes.toList

/-- The memory with the given bytes in address order, if there is one for each
address. -/
def ofArray? (bytes : Array UInt8) : Option Memory :=
  if complete : bytes.size = UInt16.size then some ⟨⟨bytes, complete⟩⟩ else none

@[ext] theorem ext_get {first second : Memory}
    (agree : ∀ address, first.get address = second.get address) : first = second := by
  obtain ⟨first⟩ := first
  obtain ⟨second⟩ := second
  congr 1
  apply Vector.ext
  intro index bound
  exact agree (UInt16.ofNatLT index bound)

@[simp] theorem get_set_self (memory : Memory) (address : UInt16) (value : UInt8) :
    (memory.set address value).get address = value := by
  simp [get, set]

theorem get_set_ne (memory : Memory) {address other : UInt16} (value : UInt8)
    (apart : other ≠ address) :
    (memory.set address value).get other = memory.get other := by
  have distinct : address.toNat ≠ other.toNat :=
    fun same => apart (UInt16.toNat_inj.1 same.symm)
  simp [get, set, distinct]

theorem get_set (memory : Memory) (address other : UInt16) (value : UInt8) :
    (memory.set address value).get other
      = if other = address then value else memory.get other := by
  by_cases same : other = address
  · subst same
    simp
  · simp [same, get_set_ne memory value same]

/-- How far an address lies behind the next one of another. -/
theorem toNat_sub_add_one (target address : UInt16) :
    (target - (address + 1)).toNat
      = if target = address then UInt16.size - 1 else (target - address).toNat - 1 := by
  have first := target.toNat_lt
  have second := address.toNat_lt
  have one : (1 : UInt16).toNat = 1 := rfl
  rw [UInt16.toNat_sub, UInt16.toNat_sub, UInt16.toNat_add, one]
  split
  · rename_i same
    subst same
    simp only [UInt16.size]
    omega
  · rename_i apart
    have distinct : target.toNat ≠ address.toNat := fun same => apart (UInt16.toNat_inj.1 same)
    omega

/-- A memory holds what has last been loaded. -/
theorem get_load (bytes : List UInt8) (target : UInt16) :
    ∀ (memory : Memory) (address : UInt16), bytes.length ≤ UInt16.size →
      (memory.load address bytes).get target
        = (bytes[(target - address).toNat]?).getD (memory.get target) := by
  induction bytes with
  | nil => exact fun _ _ _ => rfl
  | cons value rest recurse =>
      intro memory address fits
      rw [List.length_cons] at fits
      rw [load, recurse _ _ (by omega), toNat_sub_add_one]
      by_cases here : target = address
      · rw [if_pos here, List.getElem?_eq_none (by omega), here, UInt16.sub_self]
        exact get_set_self memory address value
      · have behind : (target - address).toNat ≠ 0 := by
          intro none
          have zero : target - address = 0 := UInt16.toNat_inj.1 none
          have place := UInt16.sub_add_cancel target address
          rw [zero, UInt16.zero_add] at place
          exact here place.symm
        obtain ⟨further, place⟩ := Nat.exists_eq_succ_of_ne_zero behind
        rw [if_neg here, get_set_ne _ _ here, place]
        rfl

@[simp] theorem get_filled (value : UInt8) (address : UInt16) :
    (filled value).get address = value := by
  simp [get, filled]

end Memory

end LynxSuzy
