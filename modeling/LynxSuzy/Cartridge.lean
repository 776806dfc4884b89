/-!
Contract: a game cartridge.

Owns: the acceptance of an image, the two banks it may hold, and reading it a
byte at a time.

A bank is 256 pages of one size. The page is chosen from outside; within a page
a counter goes up with every byte read, whichever bank it is read from, and
wraps round the page.

An image is either one bank and nothing else, or it starts with a header of 64
bytes that gives the page sizes of both banks; the second bank may be missing.
-/

set_option autoImplicit false

namespace LynxSuzy

/-- Why an image is refused. -/
inductive CartridgeError where
  /-- A plain image that is not a whole number of bytes for each page. -/
  | invalidSize (size : Nat)
  | unsupportedPageSize (size : Nat)
  | truncated (expected actual : Nat)
  deriving DecidableEq, Repr

def CartridgeError.message : CartridgeError → String
  | .invalidSize size => "Invalid ROM size: " ++ toString size ++ " bytes"
  | .unsupportedPageSize size => "Unsupported page size: " ++ toString size ++ " bytes"
  | .truncated expected actual =>
      "Image truncated: expected " ++ toString expected ++ " bytes, got " ++ toString actual

structure Bank where
  /-- The place of its first byte. -/
  base : Nat
  /-- Bytes in a page; zero if the bank is missing. -/
  pageSize : Nat
  deriving DecidableEq, Repr

namespace Bank

def pages : Nat := 256

def size (bank : Bank) : Nat := bank.pageSize * pages

/-- The place in the image that a page and a counter select. The counter wraps
round the page. -/
def place (bank : Bank) (page : UInt8) (counter : UInt16) : Nat :=
  bank.base + page.toNat * bank.pageSize + counter.toNat % bank.pageSize

end Bank

structure Cartridge where
  image : Array UInt8
  bank0 : Bank
  bank1 : Bank
  /-- The bank that is read. -/
  selected : Fin 2
  page : UInt8
  counter : UInt16
  deriving DecidableEq

namespace Cartridge

/-- What the header of an image starts with. -/
def magic : List UInt8 := [0x4C, 0x59, 0x4E, 0x58]

def headerSize : Nat := 64

def pageSizes : List Nat := [256, 512, 1024, 2048]

def checkPageSize (size : Nat) : Except CartridgeError Nat :=
  if size ∈ pageSizes then .ok size else .error (.unsupportedPageSize size)

/-- The page size of a bank that may be missing. -/
def checkOptionalPageSize (size : Nat) : Except CartridgeError Nat :=
  if size = 0 then .ok 0 else checkPageSize size

def byteAt (image : Array UInt8) (place : Nat) : UInt8 :=
  image.getD place 0

def wordAt (image : Array UInt8) (place : Nat) : Nat :=
  (byteAt image place).toNat + 256 * (byteAt image (place + 1)).toNat

def hasHeader (image : Array UInt8) : Bool :=
  (image.extract 0 magic.length).toList == magic

/-- A cartridge with nothing selected yet. -/
def insert (image : Array UInt8) (bank0 bank1 : Bank) : Cartridge :=
  ⟨image, bank0, bank1, 0, 0, 0⟩

/-- A cartridge from an image with a header. The body may be longer than its
banks. -/
def ofHeadedImage (image : Array UInt8) : Except CartridgeError Cartridge := do
  if image.size < headerSize then throw (.truncated headerSize image.size)
  let bank0 : Bank := ⟨headerSize, ← checkPageSize (wordAt image 4)⟩
  let bank1 : Bank := ⟨headerSize + bank0.size, ← checkOptionalPageSize (wordAt image 6)⟩
  let expected := headerSize + bank0.size + bank1.size
  if image.size < expected then throw (.truncated expected image.size)
  return insert image bank0 bank1

def ofPlainImage (image : Array UInt8) : Except CartridgeError Cartridge := do
  if image.size = 0 ∨ image.size % Bank.pages ≠ 0 then throw (.invalidSize image.size)
  let bank0 : Bank := ⟨0, ← checkPageSize (image.size / Bank.pages)⟩
  return insert image bank0 ⟨bank0.size, 0⟩

def ofImage (image : Array UInt8) : Except CartridgeError Cartridge :=
  if hasHeader image then ofHeadedImage image else ofPlainImage image

/-- A bank by number, which is taken modulo two. -/
def bank (cartridge : Cartridge) (number : Nat) : Bank :=
  if number % 2 = 0 then cartridge.bank0 else cartridge.bank1

def pageSize (cartridge : Cartridge) (number : Nat) : Nat :=
  (cartridge.bank number).pageSize

/-- Choose a page and start at its beginning. -/
def withPage (cartridge : Cartridge) (page : UInt8) : Cartridge :=
  { cartridge with page := page, counter := 0 }

/-- Choose a bank; the counter goes on. -/
def withBank (cartridge : Cartridge) (number : Nat) : Cartridge :=
  { cartridge with selected := Fin.ofNat 2 number }

def withCounterLow (cartridge : Cartridge) (value : UInt8) : Cartridge :=
  { cartridge with counter := cartridge.counter &&& (0xFF00 : UInt16) ||| value.toUInt16 }

/-- The byte that the selections point to. A missing bank reads high. -/
def current (cartridge : Cartridge) : UInt8 :=
  let bank := cartridge.bank cartridge.selected
  if bank.pageSize = 0 then 0xFF
  else cartridge.image.getD (bank.place cartridge.page cartridge.counter) 0xFF

def readNext (cartridge : Cartridge) : UInt8 × Cartridge :=
  (cartridge.current, { cartridge with counter := cartridge.counter + 1 })

end Cartridge

end LynxSuzy
