import LynxSuzy.Proofs.Blindness
import LynxSuzy.Proofs.Meetings
import LynxSuzy.Proofs.Visits

/-!
Contract: sprites that do not depend on the sprite before them.

Owns: sprites that reload every latch and that no sprite of their chain can
write over; what a visit to such a sprite plots, wherever in the chain it
stands; and what the visits of a chain of two of them come to on the screen.

Does **not** own: the order of the two (`Proofs.Commuting`).
-/

set_option autoImplicit false

namespace LynxSuzy

namespace Sprite

/-- Drawing takes the control and the data of a descriptor, and not its link. -/
theorem draw_congr {first second : Descriptor} (control : first.control = second.control)
    (data : first.data = second.data) (scene : Scene) (latches : Latches) (canvas : Canvas) :
    draw scene first latches canvas = draw scene second latches canvas := by
  unfold draw
  rw [control, data]

/-- **A descriptor that carries every field leaves no latch as it was.** -/
theorem Control.alike_of_full {control : Control} (reload : control.reload = .sizeStretchTilt)
    (palette : control.reloadPalette = true) (before after : Latches) :
    control.Alike before after := by
  refine ⟨?_, ?_, ?_, ?_⟩
  · rw [reload]
    exact nofun
  · rw [reload]
    exact nofun
  · rw [reload]
    exact nofun
  · rw [palette]
    exact nofun

end Sprite

namespace Chain

open Sprite (BytesAgree Cursor Descriptor Painted Placement draw readSprite scriptBytes)

/-! ## Sprites that stand for themselves -/

/-- A byte of the data that a sprite is drawn from, up to and with the mark that
ends it. -/
def Consumes (memory : Memory) (head address : UInt16) : Prop :=
  let sprite := Descriptor.ofMemory memory head
  (Cursor.start sprite.data).covers
    (scriptBytes (readSprite memory sprite.data sprite.control.startQuadrant)) address

/-- A sprite that is to be drawn and reloads every latch, and that neither itself
nor the sprite at `other` can write over. -/
structure Independent (registers : Registers) (memory : Memory) (head other : UInt16) : Prop where
  drawn : (Descriptor.ofMemory memory head).control.skip = false
  reload : (Descriptor.ofMemory memory head).control.reload = .sizeStretchTilt
  palette : (Descriptor.ofMemory memory head).control.reloadPalette = true
  descriptor : ∀ offset < (Descriptor.ofMemory memory head).control.descriptorBytes,
    OutOfReach registers head (head + UInt16.ofNat offset)
      ∧ OutOfReach registers other (head + UInt16.ofNat offset)
  data : ∀ address, Consumes memory head address →
    OutOfReach registers head address ∧ OutOfReach registers other address
  depository : Screen.inFrame registers.videoBase (head + registers.collisionOffset) = false

/-- Two memories that hold the same sprite at a descriptor, which may have
another link. -/
structure SameSprite (first second : Memory) (head : UInt16) : Prop where
  control : BytesAgree first second head 0 3
  fields : BytesAgree first second head 5 (Descriptor.ofMemory first head).control.descriptorBytes
  data : ∀ address, Consumes first head address → second.get address = first.get address

structure LinkedPair (memory : Memory) (first second : UInt16) : Prop where
  begins : Link.ofAddress first = .active first
  goesOn : Link.ofAddress (Descriptor.ofMemory memory first).link = .active second
  ends : Link.ofAddress (Descriptor.ofMemory memory second).link = .idle

/-- What the sprite at a descriptor plots, when it is the first of a run. -/
def placements (registers : Registers) (memory : Memory) (head : UInt16) : List Placement :=
  ((⟨registers, Metered.fresh memory, []⟩ : Walk).drawing head).placements

def visited (registers : Registers) (memory : Memory) (head : UInt16) : List (Int × Int) :=
  (placements registers memory head).map Placement.position

def brush (registers : Registers) (memory : Memory) (head : UInt16) : Brush :=
  let control := (Descriptor.ofMemory memory head).control
  ⟨registers.videoBase, control.kind.blend, (scene registers control).collision⟩

def Walk.canvas (walk : Walk) : Canvas :=
  ⟨walk.memory, walk.registers.collisions⟩

/-- A walk that finds a sprite of `memory` as it was, and the corner of the screen
where `registers` have it. -/
structure Walk.Shows (walk : Walk) (registers : Registers) (memory : Memory) (head : UInt16) :
    Prop where
  stage : ∀ control, scene walk.registers control = scene registers control
  offset : walk.registers.collisionOffset = registers.collisionOffset
  sprite : SameSprite memory walk.memory.memory head

section Visits

variable {walk : Walk} {registers : Registers} {memory : Memory} {head other : UInt16}

namespace Walk.Shows

theorem refl (registers : Registers) (memory : Memory) (head : UInt16) :
    (⟨registers, Metered.fresh memory, []⟩ : Walk).Shows registers memory head :=
  ⟨fun _ => rfl, rfl, fun _ _ _ => rfl, fun _ _ _ => rfl, fun _ _ => rfl⟩

theorem videoBase (shows : walk.Shows registers memory head) :
    walk.registers.videoBase = registers.videoBase :=
  videoBase_of_stage shows.stage

theorem outOfReach_iff (shows : walk.Shows registers memory head) {other address : UInt16} :
    OutOfReach walk.registers other address ↔ OutOfReach registers other address :=
  outOfReach_of_stage shows.stage shows.offset

theorem drawn (shows : walk.Shows registers memory head)
    (independent : Independent registers memory head other) :
    (Descriptor.ofMemory walk.memory.memory head).control.skip = false := by
  rw [Sprite.control_congr shows.sprite.control]
  exact independent.drawn

theorem drawing_eq (shows : walk.Shows registers memory head)
    (independent : Independent registers memory head other) :
    let sprite := Descriptor.ofMemory memory head
    walk.drawing head
      = draw (scene registers sprite.control) sprite
          (registers.latches.reloaded sprite.control memory head)
          (walk.canvas.charged sprite.control.descriptorBytes) := by
  intro sprite
  have control := Sprite.control_congr shows.sprite.control
  have eleven := Sprite.eleven_le_descriptorBytes independent.drawn
  have data := Sprite.data_congr independent.drawn shows.sprite.control
    (shows.sprite.fields.mono (Nat.le_refl 5) (by omega))
  have latches := Sprite.reloaded_congr independent.drawn shows.sprite.fields
    (Sprite.Control.alike_of_full independent.reload independent.palette registers.latches
      walk.registers.latches)
  rw [drawing_of_drawn (shows.drawn independent), Sprite.draw_congr control data, control, latches,
    shows.stage]
  rfl

/-- Wherever in a chain the sprite stands, it plots what it does at its start. -/
theorem placements_eq (shows : walk.Shows registers memory head)
    (independent : Independent registers memory head other) :
    (walk.drawing head).placements = placements registers memory head := by
  have first := (Shows.refl registers memory head).drawing_eq independent
  have here := shows.drawing_eq independent
  rw [placements, here, first]
  have base : (scene registers (Descriptor.ofMemory memory head).control).videoBase
      = registers.videoBase := rfl
  generalize scene registers (Descriptor.ofMemory memory head).control = stage at base ⊢
  apply Sprite.Drawing.Alike.placements
  -- Here both are to record the same number; the screens are not the same.
  apply Sprite.draw_alike stage.collision
  · intro address covered
    rw [base]
    exact (independent.data address covered).1.1
  · exact fun address covered => shows.sprite.data address covered

theorem placements_onScreen (independent : Independent registers memory head other) :
    ∀ placement ∈ placements registers memory head,
      Screen.has placement.x placement.y = true := by
  rw [placements, (Shows.refl registers memory head).drawing_eq independent]
  exact Sprite.has_of_mem_draw

/-- **A visit plots the sprite's placements**, over whatever is on the screen. -/
theorem visit_plots (shows : walk.Shows registers memory head)
    (independent : Independent registers memory head other) :
    (walk.visit head).canvas.SameScreen registers.videoBase
      (Painted.plotAll (brush registers memory head) walk.canvas
        (placements registers memory head)) := by
  have drawn := shows.drawn independent
  have depository : Screen.inFrame walk.registers.videoBase
      (head + walk.registers.collisionOffset) = false := by
    rw [shows.videoBase, shows.offset]
    exact independent.depository
  have left : (walk.visit head).canvas.SameScreen registers.videoBase
      (walk.drawing head).canvas := by
    constructor
    · intro target inside
      rw [← shows.videoBase] at inside
      exact get_frame drawn depository inside
    · show (walk.visit head).registers.collisions = (walk.drawing head).canvas.collisions
      rw [(visit_of_drawn drawn).1]
      rfl
  have onScreen := placements_onScreen independent
  obtain ⟨count, painted⟩ := Sprite.canvas_draw
    (scene registers (Descriptor.ofMemory memory head).control) (Descriptor.ofMemory memory head)
    (registers.latches.reloaded (Descriptor.ofMemory memory head).control memory head)
    (walk.canvas.charged (Descriptor.ofMemory memory head).control.descriptorBytes)
  have here := shows.drawing_eq independent
  have painter : (Sprite.Job.ofSprite (scene registers (Descriptor.ofMemory memory head).control)
      (Descriptor.ofMemory memory head)
      (registers.latches.reloaded (Descriptor.ofMemory memory head).control memory head)).brush
        = brush registers memory head := rfl
  rw [← here, shows.placements_eq independent, painter] at painted
  refine left.trans ?_
  rw [painted]
  refine (Canvas.SameScreen.charged _ _ count).trans ?_
  exact @Sprite.plotAll_congr (brush registers memory head) _ walk.canvas _ onScreen
    (Canvas.SameScreen.charged _ walk.canvas _)

theorem get_visit_other (shows : walk.Shows registers memory head)
    (drawn : (Descriptor.ofMemory walk.memory.memory other).control.skip = false)
    {address : UInt16} (outOfReach : OutOfReach registers other address) :
    (walk.visit other).memory.memory.get address = walk.memory.memory.get address :=
  get_outOfReach drawn (shows.outOfReach_iff.2 outOfReach)

/-- A visit to another sprite leaves the sprite as it was. -/
theorem visit (shows : walk.Shows registers memory head)
    (independent : Independent registers memory head other)
    (drawn : (Descriptor.ofMemory walk.memory.memory other).control.skip = false) :
    (walk.visit other).Shows registers memory head := by
  have eleven := Sprite.eleven_le_descriptorBytes independent.drawn
  refine ⟨?_, ?_, ?_, ?_, ?_⟩
  · intro control
    rw [scene_visit]
    exact shows.stage control
  · rw [registers_visit]
    exact shows.offset
  · intro offset begun inside
    exact (shows.get_visit_other drawn (independent.descriptor offset (by omega)).2).trans
      (shows.sprite.control offset begun inside)
  · intro offset begun inside
    exact (shows.get_visit_other drawn (independent.descriptor offset inside).2).trans
      (shows.sprite.fields offset begun inside)
  · intro address consumed
    exact (shows.get_visit_other drawn (independent.data address consumed).2).trans
      (shows.sprite.data address consumed)

theorem link_visit (shows : walk.Shows registers memory head)
    (independent : Independent registers memory head other)
    (drawn : (Descriptor.ofMemory walk.memory.memory other).control.skip = false) :
    (Descriptor.ofMemory (walk.visit other).memory.memory head).link
      = (Descriptor.ofMemory walk.memory.memory head).link := by
  have eleven := Sprite.eleven_le_descriptorBytes independent.drawn
  apply Sprite.link_congr
  intro offset _ inside
  exact shows.get_visit_other drawn (independent.descriptor offset (by omega)).2

end Walk.Shows

end Visits

/-! ## Chains of two sprites -/

section Pairs

variable {walk : Walk} {registers : Registers} {memory : Memory} {first second : UInt16}

theorem nextDescriptor_visit {head : UInt16}
    (drawn : (Descriptor.ofMemory walk.memory.memory head).control.skip = false) :
    (walk.visit head).registers.nextDescriptor
      = (Descriptor.ofMemory walk.memory.memory head).link := by
  rw [(visit_of_drawn drawn).1]
  rfl

variable (firstIndependent : Independent registers memory first second)
  (secondIndependent : Independent registers memory second first)
  (showsFirst : walk.Shows registers memory first)
  (showsSecond : walk.Shows registers memory second)

include firstIndependent secondIndependent showsFirst showsSecond

/-- A run over a chain of two such sprites is two visits. -/
theorem run_pair (linked : LinkedPair walk.memory.memory first second)
    (begins : walk.registers.nextDescriptor = first)
    (unstopped : walk.registers.stopRequested = false) {budget : Nat} (enough : 2 ≤ budget) :
    Walk.run budget walk = ((walk.visit first).visit second, .ended) := by
  obtain ⟨rest, rfl⟩ : ∃ rest, budget = rest + 1 + 1 := ⟨budget - 2, by omega⟩
  have firstDrawn := showsFirst.drawn firstIndependent
  have found := showsSecond.visit secondIndependent firstDrawn
  have secondDrawn := found.drawn secondIndependent
  have firstStop := (stopRequested_visit walk first).trans unstopped
  have secondStop := (stopRequested_visit (walk.visit first) second).trans firstStop
  have firstLink : Link.ofAddress walk.registers.nextDescriptor = .active first := by
    rw [begins]
    exact linked.begins
  have secondLink : Link.ofAddress (walk.visit first).registers.nextDescriptor
      = .active second := by
    rw [nextDescriptor_visit firstDrawn]
    exact linked.goesOn
  have lastLink : Link.ofAddress ((walk.visit first).visit second).registers.nextDescriptor
      = .idle := by
    rw [nextDescriptor_visit secondDrawn, showsSecond.link_visit secondIndependent firstDrawn]
    exact linked.ends
  rw [run_of_visit _ firstLink firstStop, run_of_visit _ secondLink secondStop,
    run_of_idle rest lastLink]

theorem visits_plot :
    ((walk.visit first).visit second).canvas.SameScreen registers.videoBase
      (Painted.plotAll (brush registers memory second)
        (Painted.plotAll (brush registers memory first) walk.canvas
          (placements registers memory first))
        (placements registers memory second)) := by
  have found := showsSecond.visit secondIndependent (showsFirst.drawn firstIndependent)
  refine (found.visit_plots secondIndependent).trans ?_
  exact @Sprite.plotAll_congr (brush registers memory second) _ _ _
    (Walk.Shows.placements_onScreen secondIndependent) (showsFirst.visit_plots firstIndependent)

end Pairs

end Chain

end LynxSuzy
