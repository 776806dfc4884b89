import LynxSuzy.Chip.Registers
import LynxSuzy.Sprite.Drawing

/-!
Contract: walking a chain of sprites.

Owns: one visit to a descriptor, the walk along the links, and the three ways
it can end. Descriptors, links and data are read from memory as it stands when
they are reached, so sprites can paint over what comes after them.

Only the high byte of a link tells whether the chain goes on: a link of 0080
ends it and one of 0100 does not.

Does **not** own: the conditions for a run and the bill for it (`Board`).
-/

set_option autoImplicit false

namespace LynxSuzy.Chain

inductive Link where
  /-- The descriptor at this address is next. -/
  | active (address : UInt16)
  /-- The chain has ended. -/
  | idle
  deriving DecidableEq, Repr

def Link.ofAddress (address : UInt16) : Link :=
  if address &&& (0xFF00 : UInt16) = 0 then .idle else .active address

/-- What was found and done at one descriptor. -/
structure Visit where
  descriptor : Sprite.Descriptor
  /-- The latches when the descriptor had been read. -/
  latches : Sprite.Latches
  /-- The sprite took part in collisions. -/
  collidable : Bool
  /-- What drawing it came to, unless it was skipped. -/
  summary : Option Sprite.Summary
  deriving DecidableEq

def Visit.pixels (visit : Visit) : Nat :=
  match visit.summary with
  | some summary => summary.totalPixels
  | none => 0

inductive Exit where
  /-- The last link leads nowhere. -/
  | ended
  /-- The limit was reached with this descriptor still to visit. -/
  | capped (address : UInt16)
  /-- A stop was requested; this descriptor was the last one. -/
  | stopped (address : UInt16)
  deriving DecidableEq, Repr

structure Walk where
  registers : Registers
  memory : Metered
  /-- The visits so far, latest first. -/
  reversedVisits : List Visit

def Walk.visits (walk : Walk) : List Visit :=
  walk.reversedVisits.reverse

def collidable (registers : Registers) (control : Sprite.Control) : Bool :=
  !registers.noCollide && control.collides

/-- What drawing a sprite takes from the registers. -/
def scene (registers : Registers) (control : Sprite.Control) : Sprite.Scene where
  left := Word.signed registers.horizontalOffset
  top := Word.signed registers.verticalOffset
  videoBase := registers.videoBase
  verticalStretch := registers.verticalStretch
  collision :=
    if collidable registers control then some control.collisionNumber else none

/-- Leave the sprite's collision slot in its depository. -/
def depositCollision (collisions : Collisions) (control : Sprite.Control)
    (address : UInt16) (memory : Metered) : Metered :=
  memory.write address (collisions.get control.collisionNumber.toNat)

/-- Note in the top bit of the depository that the sprite was never on screen,
or clear the bit if it was. -/
def depositEverOn (everOnScreen : Bool) (address : UInt16) (memory : Metered) : Metered :=
  let found := memory.read address
  found.2.write address
    (if everOnScreen then found.1 &&& (0x7F : UInt8) else found.1 ||| (0x80 : UInt8))

/-- Draw the sprite of a descriptor that has been read, and leave its results
in its depository. -/
def paint (registers : Registers) (descriptor : Sprite.Descriptor) (memory : Metered) :
    Registers × Metered × Sprite.Summary :=
  let control := descriptor.control
  let drawing := Sprite.draw (scene registers control) descriptor registers.latches
    ⟨memory, registers.collisions⟩
  let summary := drawing.summary
  match drawing with
  | ⟨canvas, latches, _, _, _⟩ =>
      match canvas with
      | ⟨memory, collisions⟩ =>
          let depository := descriptor.address + registers.collisionOffset
          let memory :=
            if collidable registers control then
              depositCollision collisions control depository memory
            else memory
          let memory :=
            if registers.everOn then depositEverOn summary.everOnScreen depository memory
            else memory
          ({ registers with latches := latches, collisions := collisions }, memory, summary)

/-- The registers once a descriptor has been read. -/
def arrive (registers : Registers) (descriptor : Sprite.Descriptor) (latches : Sprite.Latches) :
    Registers :=
  { registers with
    control0 := descriptor.control0
    control1 := descriptor.control1
    collisionControl := descriptor.collision
    latches := latches }

/-- Visit the descriptor at an address: read it, draw its sprite unless it is
to be skipped, and take up its link. -/
def Walk.visit (walk : Walk) (address : UInt16) : Walk :=
  match walk with
  | ⟨registers, memory, visits⟩ =>
      match Sprite.Descriptor.fetch memory address registers.latches with
      | ⟨descriptor, latches, memory⟩ =>
          let registers := arrive registers descriptor latches
          let joins := collidable registers descriptor.control
          if descriptor.control.skip then
            ⟨{ registers with nextDescriptor := descriptor.link }, memory,
              ⟨descriptor, latches, joins, none⟩ :: visits⟩
          else
            match paint registers descriptor memory with
            | (registers, memory, summary) =>
                ⟨{ registers with nextDescriptor := descriptor.link }, memory,
                  ⟨descriptor, latches, joins, some summary⟩ :: visits⟩

def Walk.grantStop (walk : Walk) : Walk :=
  { walk with registers := { walk.registers with stopRequested := false } }

/-- Walk on with a budget of visits. A request to stop is granted after the
first visit; it comes before the end of the chain, and that before the limit. -/
def Walk.run : Nat → Walk → Walk × Exit
  | budget, walk =>
      match Link.ofAddress walk.registers.nextDescriptor with
      | .idle => (walk, .ended)
      | .active address =>
          match budget with
          | 0 => (walk, .capped address)
          | budget + 1 =>
              let walk := walk.visit address
              if walk.registers.stopRequested then (walk.grantStop, .stopped address)
              else Walk.run budget walk

end LynxSuzy.Chain
