import LynxSuzy.Proofs.Histories
import LynxSuzy.Proofs.Images
import Mathlib.Data.List.Induction

/-!
Contract: what comes through the two ports of the cartridge.

Owns: accesses to the ports and choices of a page, one after another; the one counter
that both ports move, as a number that never wraps; and the byte of the image that a
read gives.

The machine keeps the counter in a 16-bit word. Page sizes divide the range of that
word, so the place in a page is the same by either.

Does **not** own: which images have banks to read (`Proofs.Images`).
-/

set_option autoImplicit false

namespace LynxSuzy

namespace Cartridge

inductive Access where
  | read (port : Fin 2)
  | write (port : Fin 2) (value : UInt8)
  | page (number : UInt8)

namespace Access

/-- The counter after an access: a page starts it, a write to either port replaces its
low byte, and a read of either port moves it on. -/
def count (before : Nat) : Access → Nat
  | .read _ => before + 1
  | .write _ value => value.toNat + 256 * (before / 256)
  | .page _ => 0

/-- Whole turns of a 16-bit counter make no difference to where it goes. -/
theorem count_mod (access : Access) (before : Nat) :
    access.count (before % 65536) % 65536 = access.count before % 65536 := by
  cases access with
  | read port => exact Nat.mod_add_mod before 65536 1
  | write port value =>
      simp only [count]
      omega
  | page number => rfl

def select (before : UInt8) : Access → UInt8
  | .page number => number
  | _ => before

end Access

/-- The counter after some accesses to a cartridge that has just been inserted. -/
def counterAfter (accesses : List Access) : Nat :=
  accesses.foldl Access.count 0

def pageAfter (accesses : List Access) : UInt8 :=
  accesses.foldl Access.select 0

/-- What a port gives at a count into a page: the byte of its bank there, at a place
that lies inside the image, or a high byte if the bank is missing. -/
structure Gives (image : Array UInt8) (port : Fin 2) (page : UInt8) (counter : Nat)
    (value : UInt8) : Prop where
  missing : (bankOf image port).pageSize = 0 → value = 0xFF
  present : (bankOf image port).pageSize ≠ 0 →
    image[(bankOf image port).base + page.toNat * (bankOf image port).pageSize
      + counter % (bankOf image port).pageSize]? = some value

theorem counterAfter_concat (accesses : List Access) (access : Access) :
    counterAfter (accesses ++ [access]) = access.count (counterAfter accesses) := by
  simp only [counterAfter, List.foldl_append, List.foldl_cons, List.foldl_nil]

theorem pageAfter_concat (accesses : List Access) (access : Access) :
    pageAfter (accesses ++ [access]) = access.select (pageAfter accesses) := by
  simp only [pageAfter, List.foldl_append, List.foldl_cons, List.foldl_nil]

/-- **From a choice of a page on, reads alone count up from zero**, through whichever
ports, and stay on that page. -/
theorem count_reads (before : List Access) (number : UInt8) (ports : List (Fin 2)) :
    counterAfter (before ++ .page number :: ports.map .read) = ports.length
      ∧ pageAfter (before ++ .page number :: ports.map .read) = number := by
  induction ports using List.reverseRecOn with
  | nil => exact ⟨counterAfter_concat before _, pageAfter_concat before _⟩
  | append_singleton ports port recurse =>
      rw [List.map_append, List.map_singleton, ← List.cons_append, ← List.append_assoc,
        counterAfter_concat, pageAfter_concat, recurse.1, recurse.2, List.length_append]
      exact ⟨rfl, rfl⟩

/-! ## The cartridge -/

def perform (cartridge : Cartridge) : Access → Cartridge
  | .read port => (cartridge.withBank port).readNext.2
  | .write port value => (cartridge.withBank port).withCounterLow value
  | .page number => cartridge.withPage number

theorem perform_keeps (cartridge : Cartridge) (access : Access) :
    (cartridge.perform access).image = cartridge.image
      ∧ (cartridge.perform access).bank0 = cartridge.bank0
      ∧ (cartridge.perform access).bank1 = cartridge.bank1 := by
  cases access <;> exact ⟨rfl, rfl, rfl⟩

theorem page_perform (cartridge : Cartridge) (access : Access) :
    (cartridge.perform access).page = access.select cartridge.page := by
  cases access <;> rfl

/-- The machine's counter moves as the number does, within the range of its word. -/
theorem toNat_counter_perform (cartridge : Cartridge) (access : Access) :
    (cartridge.perform access).counter.toNat
      = access.count cartridge.counter.toNat % 65536 := by
  cases access with
  | read port => exact UInt16.toNat_add cartridge.counter 1
  | write port value =>
      have low := Word.toNat_withByte_low cartridge.counter value
      have bound := cartridge.counter.toNat_lt
      have small := value.toNat_lt
      rw [Access.count, Nat.mod_eq_of_lt (by omega)]
      exact low
  | page number => rfl

/-- Where the cartridge of an image has got to after some accesses. -/
structure Follows (image : Array UInt8) (accesses : List Access) (cartridge : Cartridge) :
    Prop where
  data : cartridge.image = image
  bank0 : cartridge.bank0 = bankOf image 0
  bank1 : cartridge.bank1 = bankOf image 1
  page : cartridge.page = pageAfter accesses
  counter : cartridge.counter.toNat = counterAfter accesses % 65536

section Following

variable {image : Array UInt8} {accesses : List Access} {cartridge : Cartridge}

theorem follows_inserted (image : Array UInt8) : Follows image [] (inserted image) :=
  ⟨rfl, rfl, rfl, rfl, rfl⟩

theorem Follows.bank (follows : Follows image accesses cartridge) (port : Fin 2) :
    cartridge.bank port = bankOf image port := by
  match port with
  | 0 => exact follows.bank0
  | 1 => exact follows.bank1

/-- **One access takes the cartridge one access further.** -/
theorem Follows.perform (follows : Follows image accesses cartridge) (access : Access) :
    Follows image (accesses ++ [access]) (cartridge.perform access) := by
  obtain ⟨data, bank0, bank1⟩ := perform_keeps cartridge access
  refine ⟨data.trans follows.data, bank0.trans follows.bank0, bank1.trans follows.bank1, ?_, ?_⟩
  · rw [page_perform, follows.page, pageAfter_concat]
  · rw [toNat_counter_perform, follows.counter, Access.count_mod, counterAfter_concat]

/-- A count into one of the pages of a bank does not leave the image. -/
theorem LiesIn.place_lt {bank : Bank} (lies : LiesIn image bank) (page : UInt8) (counter : Nat) :
    bank.base + page.toNat * bank.pageSize + counter % bank.pageSize < image.size := by
  have inside := lies.inside
  have within : counter % bank.pageSize < bank.pageSize :=
    Nat.mod_lt _ (pageSizes_pos lies.supported)
  have pages : (page.toNat + 1) * bank.pageSize ≤ 256 * bank.pageSize :=
    Nat.mul_le_mul_right _ page.toNat_lt
  rw [Nat.succ_mul] at pages
  omega

/-- The counter's range is a whole number of pages. -/
theorem pageSize_dvd {size : Nat} (supported : size ∈ pageSizes) : size ∣ 65536 := by
  have all : ∀ size ∈ pageSizes, size ∣ 65536 := by decide
  exact all size supported

/-- **A read gives the byte that the page and the counter point to.** -/
theorem Follows.gives (follows : Follows image accesses cartridge) (fits : Fits image)
    (port : Fin 2) :
    Gives image port (pageAfter accesses) (counterAfter accesses)
      (cartridge.withBank port).readNext.1 := by
  have chosen : (cartridge.withBank port).bank (cartridge.withBank port).selected
      = bankOf image port := by
    rw [← follows.bank port]
    match port with
    | 0 => rfl
    | 1 => rfl
  have read : (cartridge.withBank port).readNext.1
      = if (bankOf image port).pageSize = 0 then 0xFF
        else image.getD ((bankOf image port).place (pageAfter accesses) cartridge.counter)
          0xFF := by
    rw [← chosen, ← follows.page, ← follows.data]
    rfl
  constructor
  · intro missing
    rw [read, if_pos missing]
  · intro present
    have lies := fits.bankOf port present
    have inPhase : cartridge.counter.toNat % (bankOf image port).pageSize
        = counterAfter accesses % (bankOf image port).pageSize := by
      rw [follows.counter, Nat.mod_mod_of_dvd _ (pageSize_dvd lies.supported)]
    have bound := lies.place_lt (pageAfter accesses) (counterAfter accesses)
    rw [read, if_neg present, Bank.place, inPhase, Array.getD_eq_getD_getElem?,
      Array.getElem?_eq_getElem bound, Option.getD_some]

end Following

end Cartridge

/-! ## The ports -/

namespace Console

open Cartridge (Access Follows Gives counterAfter follows_inserted inserted pageAfter)

def portAddress : Fin 2 → UInt16
  | 0 => 0xFCB2
  | 1 => 0xFCB3

def actionOf : Access → Action
  | .read port => .read (portAddress port)
  | .write port value => .write (portAddress port) value
  | .page number => .handle (Cartridge.withPage · number)

/-- What a read of a port gives once a host has made some accesses. -/
def streamed (console : Console) (accesses : List Access) (port : Fin 2) : UInt8 :=
  ((console.after (accesses.map actionOf)).read (portAddress port)).1

section Ports

variable {console : Console} {cartridge : Cartridge} (port : Fin 2)

theorem reachesChip_portAddress : reachesChip (portAddress port) = true := by
  match port with
  | 0 => decide
  | 1 => decide

theorem ofOffset_portAddress :
    Register.ofOffset (Word.byte (portAddress port) .low) = .cartridge port := by
  match port with
  | 0 => decide
  | 1 => decide

theorem read_port (held : console.cartridge = some cartridge) :
    (console.read (portAddress port)).1 = (cartridge.withBank port).readNext.1
      ∧ (console.read (portAddress port)).2.cartridge
        = some (cartridge.withBank port).readNext.2 := by
  obtain ⟨⟨chip, memory, socket, charges, notices⟩, palette⟩ := console
  obtain rfl : socket = some cartridge := held
  simp only [read, reachesChip_portAddress, if_true, Board.readRegister, ofOffset_portAddress]
  exact ⟨rfl, rfl⟩

theorem cartridge_write_port (held : console.cartridge = some cartridge) (value : UInt8) :
    (console.write (portAddress port) value).cartridge
      = some ((cartridge.withBank port).withCounterLow value) := by
  obtain ⟨⟨chip, memory, socket, charges, notices⟩, palette⟩ := console
  obtain rfl : socket = some cartridge := held
  simp only [write, reachesChip_portAddress, if_true, Board.writeRegister, ofOffset_portAddress]
  rfl

/-- **An access of the host is one of the cartridge.** -/
theorem cartridge_perform (held : console.cartridge = some cartridge) (access : Access) :
    (console.perform (actionOf access)).cartridge = some (cartridge.perform access) := by
  cases access with
  | read port => exact (read_port port held).2
  | write port value => exact cartridge_write_port port held value
  | page number =>
      obtain ⟨⟨chip, memory, socket, charges, notices⟩, palette⟩ := console
      obtain rfl : socket = some cartridge := held
      rfl

/-- What the slot holds after some accesses has gone as far through its image. -/
theorem follows_after {image : Array UInt8} (held : console.cartridge = some (inserted image))
    (accesses : List Access) :
    ∃ cartridge, (console.after (accesses.map actionOf)).cartridge = some cartridge
      ∧ Follows image accesses cartridge := by
  induction accesses using List.reverseRecOn with
  | nil => exact ⟨_, held, follows_inserted image⟩
  | append_singleton accesses access recurse =>
      obtain ⟨cartridge, slot, follows⟩ := recurse
      rw [List.map_append, List.map_singleton, after_concat]
      exact ⟨_, cartridge_perform slot access, follows.perform access⟩

end Ports

/-- **The ports stream the image.** After any accesses to the cartridge of an accepted
image that is in the slot, a port gives the byte of its bank at the page that was chosen
last and at the counter, taken modulo the size of a page; that place lies inside the
image; and a missing bank gives a high byte. From a choice of a page on, as many reads
as there may be count up from its first byte, whichever port each of them goes through. -/
theorem ports_stream_the_image {image : Array UInt8} {cartridge : Cartridge} {console : Console}
    (accepted : Cartridge.ofImage image = .ok cartridge)
    (held : console.cartridge = some cartridge) (accesses : List Access) (port : Fin 2) :
    Gives image port (pageAfter accesses) (counterAfter accesses) (console.streamed accesses port)
      ∧ ∀ (number : UInt8) (ports : List (Fin 2)),
        Gives image port number ports.length
          (console.streamed (accesses ++ .page number :: ports.map .read) port) := by
  obtain ⟨fits, rfl⟩ := Cartridge.ofImage_eq_ok_iff.1 accepted
  have gives (accesses : List Access) :
      Gives image port (pageAfter accesses) (counterAfter accesses)
        (console.streamed accesses port) := by
    obtain ⟨cartridge, slot, follows⟩ := follows_after held accesses
    rw [streamed, (read_port port slot).1]
    exact follows.gives fits port
  refine ⟨gives accesses, fun number ports => ?_⟩
  obtain ⟨counted, chosen⟩ := Cartridge.count_reads accesses number ports
  have reads := gives (accesses ++ .page number :: ports.map .read)
  rw [counted, chosen] at reads
  exact reads

/-- A plain image with pages of 512 bytes, which count half pages. -/
def steppedImage : Array UInt8 :=
  Array.ofFn fun place : Fin (256 * 512) => UInt8.ofNat (place / 256)

theorem getElem?_steppedImage {place : Nat} (inside : place < 256 * 512) :
    steppedImage[place]? = some (UInt8.ofNat (place / 256)) := by
  rw [steppedImage, Array.getElem?_ofFn, dif_pos inside]

theorem size_steppedImage : steppedImage.size = 256 * 512 :=
  Array.size_ofFn

theorem bare_steppedImage : ¬Cartridge.Headed steppedImage := by
  rintro ⟨rest, same⟩
  have first : steppedImage[0]? = some 0x4C := by
    rw [← Array.getElem?_toList, ← same]
    rfl
  rw [getElem?_steppedImage (by decide)] at first
  exact absurd first (by decide)

theorem gives_steppedImage {page value : UInt8} {counter : Nat}
    (gives : Gives steppedImage 0 page counter value) :
    value = UInt8.ofNat ((page.toNat * 512 + counter % 512) / 256) := by
  have bank : Cartridge.bankOf steppedImage 0 = ⟨0, 512⟩ := by
    rw [Cartridge.bankOf, Cartridge.banksOf_of_plain bare_steppedImage, Cartridge.plainBanks,
      size_steppedImage]
  have inside : page.toNat * 512 + counter % 512 < 256 * 512 := by
    have small := page.toNat_lt
    omega
  have byte := gives.present
  rw [bank] at byte
  have found := byte (by decide)
  rw [Nat.zero_add, getElem?_steppedImage inside] at found
  exact (Option.some.inj found).symm

/-- Reads of a bank that is missing move the counter too, and 70000 of them take it past
the range of its word. -/
theorem stepped_image_streamed :
    let console := (powerOn Config.standard).withBoard
      { (powerOn Config.standard).board with socket := some (inserted steppedImage) }
    let accesses : List Access := [.page 3, .read 1, .write 1 0xFE, .read 1, .read 0]
    Cartridge.ofImage steppedImage = .ok (inserted steppedImage)
      ∧ console.cartridge = some (inserted steppedImage)
      ∧ console.streamed accesses 0 = 7
      ∧ console.streamed (accesses ++ .page 3 :: (List.replicate 70000 1).map .read) 0 = 7 := by
  intro console accesses
  have accepted : Cartridge.ofImage steppedImage = .ok (inserted steppedImage) := by
    apply Cartridge.ofImage_of_fits
    exact .plain bare_steppedImage 512 (by decide) size_steppedImage
  have held : console.cartridge = some (inserted steppedImage) := rfl
  obtain ⟨mixed, later⟩ := ports_stream_the_image accepted held accesses 0
  have counted : counterAfter accesses = 256 ∧ pageAfter accesses = 3 := by decide
  have reads := gives_steppedImage (later 3 (List.replicate 70000 1))
  rw [counted.1, counted.2] at mixed
  rw [List.length_replicate] at reads
  exact ⟨accepted, held, gives_steppedImage mixed, reads⟩

end Console

end LynxSuzy
