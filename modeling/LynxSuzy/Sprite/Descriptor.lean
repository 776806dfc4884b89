import LynxSuzy.Sprite.Control

/-!
Contract: a sprite's descriptor in memory, and the latches it reloads.

Owns: the layout of a descriptor (all addresses wrap) and which latches reading
one replaces.

| offset | field |
|---|---|
| 0, 1, 2 | control bytes |
| 3 | link to the next descriptor |
| 5, 7, 9 | data pointer, horizontal and vertical position |
| 11 | as many of size, stretch and tilt as the reload choice says |
| next | the palette, unless it is kept |

A descriptor with the skip bit ends after its link. Fields that are left out
keep the value an earlier sprite gave them, which is what makes them latches.
-/

set_option autoImplicit false

namespace LynxSuzy.Sprite

/-- The fields that one sprite hands down to the next. -/
structure Latches where
  hpos : UInt16
  vpos : UInt16
  /-- Width of a pixel, with eight fractional bits. -/
  hsize : UInt16
  /-- Height of a line, with eight fractional bits. -/
  vsize : UInt16
  /-- Growth of the sizes from one drawn line to the next. -/
  stretch : UInt16
  /-- Shift of the position from one drawn line to the next, a signed number
  with eight fractional bits. -/
  tilt : UInt16
  /-- The pen for each pixel index. -/
  palette : Vector UInt8 16
  deriving DecidableEq

namespace Latches

/-- Power-on latches: one to one, and each index is its own pen. -/
def initial : Latches where
  hpos := 0
  vpos := 0
  hsize := 0x0100
  vsize := 0x0100
  stretch := 0
  tilt := 0
  palette := Vector.ofFn fun index => UInt8.ofNat index

/-- The pen that a pixel index selects; only its low nibble counts. -/
def pen (latches : Latches) (index : UInt8) : UInt8 :=
  entryAt latches.palette index.toNat

end Latches

/-- The part of a descriptor that belongs to its sprite alone. -/
structure Descriptor where
  address : UInt16
  control0 : UInt8
  control1 : UInt8
  collision : UInt8
  /-- Address of the next descriptor. -/
  link : UInt16
  /-- Address of the sprite's data; zero where reading stopped at the link. -/
  data : UInt16
  deriving DecidableEq

def Descriptor.control (descriptor : Descriptor) : Control :=
  Control.decode descriptor.control0 descriptor.control1 descriptor.collision

/-- The palette packed into bytes, the lower index in the high nibble. -/
def unpackPalette (bytes : List UInt8) : Vector UInt8 16 :=
  Vector.ofFn fun index =>
    Byte.nibble (bytes.getD (index / 2) 0) (if index.val % 2 = 0 then .high else .low)

/-- Reading in progress: what is left of the memory, the address of the next
optional field, and the latches so far. -/
structure Fetch where
  memory : Metered
  address : UInt16
  latches : Latches

namespace Fetch

/-- Read both size words. -/
def size (fetch : Fetch) : Fetch :=
  let across := fetch.memory.readWord fetch.address
  let down := across.2.readWord (fetch.address + 2)
  ⟨down.2, fetch.address + 4, { fetch.latches with hsize := across.1, vsize := down.1 }⟩

def stretch (fetch : Fetch) : Fetch :=
  let word := fetch.memory.readWord fetch.address
  ⟨word.2, fetch.address + 2, { fetch.latches with stretch := word.1 }⟩

def tilt (fetch : Fetch) : Fetch :=
  let word := fetch.memory.readWord fetch.address
  ⟨word.2, fetch.address + 2, { fetch.latches with tilt := word.1 }⟩

def palette (fetch : Fetch) : Fetch :=
  let bytes := fetch.memory.readBytes fetch.address 8
  ⟨bytes.2, fetch.address + 8, { fetch.latches with palette := unpackPalette bytes.1 }⟩

/-- Read a field only if the descriptor carries it. -/
def optional (fetch : Fetch) (present : Bool) (field : Fetch → Fetch) : Fetch :=
  if present then field fetch else fetch

end Fetch

/-- A descriptor that has been read, the latches after it and the memory with
the accesses counted. -/
structure Fetched where
  descriptor : Descriptor
  latches : Latches
  memory : Metered

def Descriptor.fetch (memory : Metered) (address : UInt16) (latches : Latches) : Fetched :=
  let control0 := memory.read address
  let control1 := control0.2.read (address + 1)
  let collision := control1.2.read (address + 2)
  let link := collision.2.readWord (address + 3)
  let control := Control.decode control0.1 control1.1 collision.1
  if control.skip then
    ⟨⟨address, control0.1, control1.1, collision.1, link.1, 0⟩, latches, link.2⟩
  else
    let data := link.2.readWord (address + 5)
    let hpos := data.2.readWord (address + 7)
    let vpos := hpos.2.readWord (address + 9)
    let fetch : Fetch :=
      ⟨vpos.2, address + 11, { latches with hpos := hpos.1, vpos := vpos.1 }⟩
    let fetch := fetch.optional control.reload.hasSize Fetch.size
    let fetch := fetch.optional control.reload.hasStretch Fetch.stretch
    let fetch := fetch.optional control.reload.hasTilt Fetch.tilt
    let fetch := fetch.optional control.reloadPalette Fetch.palette
    ⟨⟨address, control0.1, control1.1, collision.1, link.1, data.1⟩, fetch.latches,
      fetch.memory⟩

end LynxSuzy.Sprite
