import LynxSuzy.Chip
import LynxSuzy.Picture
import LynxSuzy.Json

/-!
Contract: the chip's values as documents.

Owns: the written form of each value, and reading it back. An integer is read
only from a number written as an integer and within its range; a vector only
from an array of its length; a record from an object or an array with all its
fields.

Why a document cannot be read is not told.
-/

set_option autoImplicit false

namespace LynxSuzy.Json

def ofByte (value : UInt8) : Json := integer value.toNat

def byte? (document : Json) : Option UInt8 :=
  (document.natBelow? UInt8.size).map UInt8.ofNat

def ofWord (value : UInt16) : Json := integer value.toNat

def word? (document : Json) : Option UInt16 :=
  (document.natBelow? UInt16.size).map UInt16.ofNat

def ofLong (value : UInt32) : Json := integer value.toNat

def long? (document : Json) : Option UInt32 :=
  (document.natBelow? UInt32.size).map UInt32.ofNat

def ofBytes (values : List UInt8) : Json := array (values.map ofByte)

/-- Read any number of bytes. -/
def bytes? (document : Json) : Option (Array UInt8) := do
  (← document.elements?).toArray.mapM byte?

def sixteenBytes? (document : Json) : Option (Vector UInt8 16) := do
  let bytes ← document.bytes?
  if complete : bytes.size = 16 then some ⟨bytes, complete⟩ else none

end Json

open Json

namespace Arithmetic

def fieldNames : List String :=
  ["ab", "cd", "np", "efgh", "jklm", "signed", "accumulate", "overflow", "carry"]

def toJson (unit : Arithmetic) : Json :=
  .object
    [("ab", ofWord unit.ab), ("cd", ofWord unit.cd), ("np", ofWord unit.np),
      ("efgh", ofLong unit.efgh), ("jklm", ofLong unit.jklm), ("signed", .bool unit.signed),
      ("accumulate", .bool unit.accumulate), ("overflow", .bool unit.overflow),
      ("carry", .bool unit.carry)]

def ofJson? (document : Json) : Option Arithmetic := do
  match ← document.record? fieldNames with
  | [ab, cd, np, efgh, jklm, signed, accumulate, overflow, carry] =>
      return {
        ab := ← ab.word?
        cd := ← cd.word?
        np := ← np.word?
        efgh := ← efgh.long?
        jklm := ← jklm.long?
        signed := ← signed.bool?
        accumulate := ← accumulate.bool?
        overflow := ← overflow.bool?
        carry := ← carry.bool? }
  | _ => none

end Arithmetic

namespace Collisions

def fieldNames : List String := ["slots", "sprite_collision"]

def toJson (buffer : Collisions) : Json :=
  .object
    [("slots", ofBytes buffer.slots.toList), ("sprite_collision", .bool buffer.sticky)]

def ofJson? (document : Json) : Option Collisions := do
  match ← document.record? fieldNames with
  | [slots, sticky] =>
      return { slots := ← slots.sixteenBytes?, sticky := ← sticky.bool? }
  | _ => none

end Collisions

namespace Sprite.Latches

def fieldNames : List String :=
  ["hpos", "vpos", "hsize", "vsize", "stretch", "tilt", "palette"]

def toJson (latches : Latches) : Json :=
  .object
    [("hpos", ofWord latches.hpos), ("vpos", ofWord latches.vpos),
      ("hsize", ofWord latches.hsize), ("vsize", ofWord latches.vsize),
      ("stretch", ofWord latches.stretch), ("tilt", ofWord latches.tilt),
      ("palette", ofBytes latches.palette.toList)]

def ofJson? (document : Json) : Option Latches := do
  match ← document.record? fieldNames with
  | [hpos, vpos, hsize, vsize, stretch, tilt, palette] =>
      return {
        hpos := ← hpos.word?
        vpos := ← vpos.word?
        hsize := ← hsize.word?
        vsize := ← vsize.word?
        stretch := ← stretch.word?
        tilt := ← tilt.word?
        palette := ← palette.sixteenBytes? }
  | _ => none

end Sprite.Latches

namespace Registers

def fieldNames : List String :=
  ["hoff", "voff", "video_base", "collision_offset", "scb_next", "sprctl0", "sprctl1",
    "sprcoll", "sprinit", "bus_enabled", "sprite_go", "everon", "no_collide", "vstretch",
    "lefthand", "stop_requested", "working", "math", "collisions", "latches", "joystick",
    "switches"]

def toJson (registers : Registers) : Json :=
  .object
    [("hoff", ofWord registers.horizontalOffset), ("voff", ofWord registers.verticalOffset),
      ("video_base", ofWord registers.videoBase),
      ("collision_offset", ofWord registers.collisionOffset),
      ("scb_next", ofWord registers.nextDescriptor), ("sprctl0", ofByte registers.control0),
      ("sprctl1", ofByte registers.control1), ("sprcoll", ofByte registers.collisionControl),
      ("sprinit", ofByte registers.initialization), ("bus_enabled", .bool registers.busEnabled),
      ("sprite_go", .bool registers.spriteGo), ("everon", .bool registers.everOn),
      ("no_collide", .bool registers.noCollide), ("vstretch", .bool registers.verticalStretch),
      ("lefthand", .bool registers.leftHanded),
      ("stop_requested", .bool registers.stopRequested), ("working", .bool registers.working),
      ("math", registers.arithmetic.toJson), ("collisions", registers.collisions.toJson),
      ("latches", registers.latches.toJson), ("joystick", ofByte registers.joystick),
      ("switches", ofByte registers.switches)]

def ofJson? (document : Json) : Option Registers := do
  match ← document.record? fieldNames with
  | [hoff, voff, videoBase, collisionOffset, next, control0, control1, collisionControl,
      initialization, busEnabled, spriteGo, everOn, noCollide, verticalStretch, leftHanded,
      stopRequested, working, arithmetic, collisions, latches, joystick, switches] =>
      return {
        horizontalOffset := ← hoff.word?
        verticalOffset := ← voff.word?
        videoBase := ← videoBase.word?
        collisionOffset := ← collisionOffset.word?
        nextDescriptor := ← next.word?
        control0 := ← control0.byte?
        control1 := ← control1.byte?
        collisionControl := ← collisionControl.byte?
        initialization := ← initialization.byte?
        busEnabled := ← busEnabled.bool?
        spriteGo := ← spriteGo.bool?
        everOn := ← everOn.bool?
        noCollide := ← noCollide.bool?
        verticalStretch := ← verticalStretch.bool?
        leftHanded := ← leftHanded.bool?
        stopRequested := ← stopRequested.bool?
        working := ← working.bool?
        arithmetic := ← Arithmetic.ofJson? arithmetic
        collisions := ← Collisions.ofJson? collisions
        latches := ← Sprite.Latches.ofJson? latches
        joystick := ← joystick.byte?
        switches := ← switches.byte? }
  | _ => none

end Registers

namespace Config

def fieldNames : List String := ["sprite_limit"]

def toJson (config : Config) : Json :=
  .object [("sprite_limit", (config.spriteLimit.map fun limit => integer limit).getD .null)]

/-- Read a limit, which null stands for if there is none. -/
def limit? : Json → Option (Option Nat)
  | .null => some none
  | document => (document.natBelow? UInt32.size).map some

/-- Read a configuration. A missing limit is no limit. -/
def ofJson? (document : Json) : Option Config := do
  match ← document.fields? fieldNames with
  | [limit] => return { spriteLimit := ← limit? (limit.getD .null) }
  | _ => none

end Config

namespace Picture

def fieldNames : List String := ["width", "height", "pixels"]

def toJson (picture : Picture) : Json :=
  .object
    [("width", ofLong picture.width), ("height", ofLong picture.height),
      ("pixels", .array (picture.pixels.toList.map ofLong))]

/-- Read a picture. Nothing ties the number of pixels to the size. -/
def ofJson? (document : Json) : Option Picture := do
  match ← document.record? fieldNames with
  | [width, height, pixels] =>
      return {
        width := ← width.long?
        height := ← height.long?
        pixels := ← (← pixels.elements?).toArray.mapM long? }
  | _ => none

end Picture

end LynxSuzy
