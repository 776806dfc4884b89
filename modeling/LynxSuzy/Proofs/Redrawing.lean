import LynxSuzy.Proofs.Blindness
import LynxSuzy.Proofs.Latches
import LynxSuzy.Proofs.Nibbles
import LynxSuzy.Proofs.Visits

/-!
Contract: what a sprite does when it is drawn again.

Owns: the chains of one sprite that cannot write over itself, and the law of
drawing such a sprite twice. The second run finds the descriptor, the data and
so the latches of the first, and plots the same pens over what the first has
left.

Does **not** own: sprites that paint over their own descriptor or data.
-/

set_option autoImplicit false

namespace LynxSuzy

/-! ## What is reloaded -/

/-- **What drawing moves, its descriptor reloads**: the sizes only with a stretch,
which comes with sizes. -/
theorem Sprite.alike_of_spares {control : Control} {before after : Latches} {memory : Memory}
    {address : UInt16}
    (spared : control.reload.Spares (before.reloaded control memory address) after) :
    control.Alike before after := by
  refine ⟨?_, ?_, ?_, ?_⟩
  · intro unsized
    -- No descriptor carries a stretch without the sizes that it changes.
    have unstretched : control.reload.hasStretch = false := by
      revert unsized
      cases control.reload <;> decide
    obtain ⟨hsize, vsize⟩ := spared.sizes unstretched
    simp only [Latches.reloaded, unsized, Bool.false_eq_true, if_false] at hsize vsize
    exact ⟨hsize, vsize⟩
  · intro unstretched
    rw [spared.stretch]
    simp only [Latches.reloaded, unstretched, Bool.false_eq_true, if_false]
  · intro untilted
    rw [spared.tilt]
    simp only [Latches.reloaded, untilted, Bool.false_eq_true, if_false]
  · intro kept
    rw [spared.palette]
    simp only [Latches.reloaded, kept, Bool.false_eq_true, if_false]

/-! ## The same pixels again -/

namespace Sprite

section Again

variable {scene : Scene} {descriptor : Descriptor} {latches : Latches} {canvas again : Canvas}

/-- What drawing leaves at a position is a fold of the pens that are plotted there. -/
theorem found_draw {x y : Int} (onScreen : Screen.has x y = true) :
    let brush := (Job.ofSprite scene descriptor latches).brush
    let drawing := draw scene descriptor latches canvas
    brush.found drawing.canvas x y
      = (pensAt drawing.placements x y).foldl brush.blend.result (brush.found canvas x y) := by
  intro brush drawing
  obtain ⟨count, painted⟩ := canvas_draw scene descriptor latches canvas
  rw [← found_plotAll brush drawing.placements onScreen canvas]
  show brush.found (draw scene descriptor latches canvas).canvas x y = _
  rw [painted]
  rfl

/-- **Drawing a sprite again**, over the frame buffer that it has left, changes
neither the latches nor the frame buffer, except that shadows take back what
they have done. -/
theorem redraw
    (apart : DataApart scene.videoBase (Cursor.start descriptor.data)
      (scriptBytes (readSprite canvas.memory.memory descriptor.data
        descriptor.control.startQuadrant)))
    (same : ∀ address, (Cursor.start descriptor.data).covers
      (scriptBytes (readSprite canvas.memory.memory descriptor.data
        descriptor.control.startQuadrant)) address →
      again.memory.memory.get address = canvas.memory.memory.get address)
    (left : ∀ target, Screen.inFrame scene.videoBase target = true →
      again.memory.memory.get target
        = (draw scene descriptor latches canvas).canvas.memory.memory.get target) :
    let first := draw scene descriptor latches canvas
    let second := draw scene descriptor latches again
    second.latches = first.latches
      ∧ ∀ target, Screen.inFrame scene.videoBase target = true →
        second.canvas.memory.memory.get target
          = if descriptor.control.kind.blend = .shadow then canvas.memory.memory.get target
            else first.canvas.memory.memory.get target := by
  intro first second
  let brush := (Job.ofSprite scene descriptor latches).brush
  -- Both drawings plot the same pens, so each position goes twice through one fold.
  have alike : second.Alike first := draw_alike scene.collision apart same
  have twice : ∀ x y : Int, Screen.has x y = true →
      brush.found second.canvas x y
        = if descriptor.control.kind.blend = .shadow then brush.found canvas x y
          else brush.found first.canvas x y := by
    intro x y onScreen
    have before : brush.found again x y = brush.found first.canvas x y :=
      @Brush.found_congr brush again first.canvas left x y onScreen
    have once : brush.found first.canvas x y
        = (pensAt first.placements x y).foldl brush.blend.result (brush.found canvas x y) :=
      found_draw onScreen
    calc brush.found second.canvas x y
        = (pensAt second.placements x y).foldl brush.blend.result (brush.found again x y) :=
          found_draw onScreen
      _ = (pensAt first.placements x y).foldl brush.blend.result
            ((pensAt first.placements x y).foldl brush.blend.result (brush.found canvas x y)) := by
          rw [alike.placements, before, once]
      _ = if descriptor.control.kind.blend = .shadow then brush.found canvas x y
          else brush.found first.canvas x y := by
          rw [Blend.foldl_result_twice, ← once]
          rfl
  refine ⟨alike.latches, ?_⟩
  intro target inside
  by_cases shadow : descriptor.control.kind.blend = .shadow
  · rw [if_pos shadow]
    apply @Memory.get_eq_of_found brush second.canvas canvas target inside
    intro x y onScreen
    rw [twice x y onScreen, if_pos shadow]
  · rw [if_neg shadow]
    apply @Memory.get_eq_of_found brush second.canvas first.canvas target inside
    intro x y onScreen
    rw [twice x y onScreen, if_neg shadow]

end Again

end Sprite

/-! ## Chains of one sprite -/

namespace Chain

open Sprite (Descriptor Latches Cursor readSprite scriptBytes)

/-- A chain of one sprite that is to be drawn and cannot write over what it is
read from: the bytes of its descriptor, and those of its data up to and with
the mark that ends it. -/
structure Alone (registers : Registers) (memory : Memory) (head : UInt16) : Prop where
  begins : Link.ofAddress registers.nextDescriptor = .active head
  drawn : (Descriptor.ofMemory memory head).control.skip = false
  ends : Link.ofAddress (Descriptor.ofMemory memory head).link = .idle
  descriptor : ∀ offset < (Descriptor.ofMemory memory head).control.descriptorBytes,
    OutOfReach registers head (head + UInt16.ofNat offset)
  data : ∀ address,
    (Cursor.start (Descriptor.ofMemory memory head).data).covers
      (scriptBytes (readSprite memory (Descriptor.ofMemory memory head).data
        (Descriptor.ofMemory memory head).control.startQuadrant)) address →
    OutOfReach registers head address
  depository : Screen.inFrame registers.videoBase (head + registers.collisionOffset) = false

/-- A walk that takes up what a visit has left, at the same descriptor again. -/
structure Walk.Repeats (again walk : Walk) (head : UInt16) : Prop where
  begins : again.registers.nextDescriptor = head
  memory : again.memory.memory = (walk.visit head).memory.memory
  latches : again.registers.latches = (walk.visit head).registers.latches
  stage : ∀ control, scene again.registers control = scene walk.registers control
  offset : again.registers.collisionOffset = walk.registers.collisionOffset

section Alone

variable {walk again : Walk} {head : UInt16}

theorem Alone.visit (alone : Alone walk.registers walk.memory.memory head) :
    let sprite := Descriptor.ofMemory walk.memory.memory head
    let drawing := walk.drawing head
    (walk.visit head).registers
        = depart walk.registers sprite drawing.latches drawing.canvas.collisions
      ∧ (walk.visit head).memory = deposit walk.registers sprite drawing :=
  visit_of_drawn alone.drawn

theorem Alone.get_frame (alone : Alone walk.registers walk.memory.memory head) {target : UInt16}
    (inside : Screen.inFrame walk.registers.videoBase target = true) :
    (walk.visit head).memory.memory.get target
      = (walk.drawing head).canvas.memory.memory.get target :=
  Chain.get_frame alone.drawn alone.depository inside

/-- A run over such a chain is one visit. -/
theorem Alone.run (alone : Alone walk.registers walk.memory.memory head)
    (unstopped : walk.registers.stopRequested = false) {budget : Nat} (some : budget ≠ 0) :
    Walk.run budget walk = (walk.visit head, .ended) := by
  obtain ⟨rest, rfl⟩ := Nat.exists_eq_succ_of_ne_zero some
  have ends : Link.ofAddress (walk.visit head).registers.nextDescriptor = .idle := by
    rw [alone.visit.1]
    exact alone.ends
  rw [run_of_visit rest alone.begins ((stopRequested_visit walk head).trans unstopped),
    run_of_idle rest ends]

end Alone

section Repeats

variable {walk again : Walk} {head : UInt16}

theorem Walk.Repeats.videoBase (repeats : again.Repeats walk head) :
    again.registers.videoBase = walk.registers.videoBase :=
  videoBase_of_stage repeats.stage

theorem Walk.Repeats.outOfReach_iff (repeats : again.Repeats walk head) {address : UInt16} :
    OutOfReach again.registers head address ↔ OutOfReach walk.registers head address :=
  outOfReach_of_stage repeats.stage repeats.offset

variable (alone : Alone walk.registers walk.memory.memory head)
  (repeats : again.Repeats walk head)

include alone repeats

theorem Walk.Repeats.bytes : Sprite.BytesAgree walk.memory.memory again.memory.memory head 0
    (Descriptor.ofMemory walk.memory.memory head).control.descriptorBytes := by
  intro offset _ inside
  rw [repeats.memory]
  exact get_outOfReach alone.drawn (alone.descriptor offset inside)

theorem Walk.Repeats.ofMemory :
    Descriptor.ofMemory again.memory.memory head = Descriptor.ofMemory walk.memory.memory head :=
  Sprite.ofMemory_congr (repeats.bytes alone)

/-- The second visit comes to draw with the latches of the first. -/
theorem Walk.Repeats.reloaded :
    let control := (Descriptor.ofMemory walk.memory.memory head).control
    again.registers.latches.reloaded control again.memory.memory head
      = walk.registers.latches.reloaded control walk.memory.memory head := by
  intro control
  apply Sprite.reloaded_congr alone.drawn ((repeats.bytes alone).mono (Nat.zero_le 5) (Nat.le_refl _))
  apply Sprite.alike_of_spares
  rw [repeats.latches, alone.visit.1]
  show control.reload.Spares _ (walk.drawing head).latches
  unfold Walk.drawing
  rw [fetched_of_drawn alone.drawn]
  exact Sprite.spares_draw _ _ _ _

theorem Walk.Repeats.get_data (address : UInt16)
    (covered : (Cursor.start (Descriptor.ofMemory walk.memory.memory head).data).covers
      (scriptBytes (readSprite walk.memory.memory (Descriptor.ofMemory walk.memory.memory head).data
        (Descriptor.ofMemory walk.memory.memory head).control.startQuadrant)) address) :
    again.memory.memory.get address = walk.memory.memory.get address := by
  rw [repeats.memory]
  exact get_outOfReach alone.drawn (alone.data address covered)

/-- **The chain that is taken up again is still alone.** -/
theorem Walk.Repeats.stillAlone : Alone again.registers again.memory.memory head := by
  have active : Link.ofAddress head = .active head := by
    rw [← Link.eq_of_active alone.begins]
    rw [alone.begins, Link.eq_of_active alone.begins]
  have script := Sprite.readQuadrants_congr 4
    (Descriptor.ofMemory walk.memory.memory head).control.startQuadrant
    (Cursor.start (Descriptor.ofMemory walk.memory.memory head).data) (repeats.get_data alone)
  have same := repeats.ofMemory alone
  refine ⟨?_, ?_, ?_, ?_, ?_, ?_⟩
  · rw [repeats.begins]
    exact active
  · rw [same]
    exact alone.drawn
  · rw [same]
    exact alone.ends
  · rw [same]
    intro offset inside
    exact repeats.outOfReach_iff.2 (alone.descriptor offset inside)
  · rw [same]
    intro address covered
    apply repeats.outOfReach_iff.2
    apply alone.data
    unfold readSprite at covered ⊢
    rwa [script] at covered
  · rw [repeats.videoBase, repeats.offset]
    exact alone.depository

/-- **The second visit draws the sprite again** on what the first has left. -/
theorem Walk.Repeats.drawing :
    let first := walk.drawing head
    let second := again.drawing head
    second.latches = first.latches
      ∧ ∀ target, Screen.inFrame walk.registers.videoBase target = true →
        second.canvas.memory.memory.get target
          = if (Descriptor.ofMemory walk.memory.memory head).control.kind.blend = .shadow then
              walk.memory.memory.get target
            else first.canvas.memory.memory.get target := by
  have fetched := fetched_of_drawn (repeats.stillAlone alone).drawn
  rw [repeats.ofMemory alone, repeats.reloaded alone] at fetched
  have left : ∀ target, Screen.inFrame walk.registers.videoBase target = true →
      again.memory.memory.get target
        = (walk.drawing head).canvas.memory.memory.get target := by
    intro target inside
    rw [repeats.memory]
    exact alone.get_frame inside
  intro first second
  simp only [first, second, Walk.drawing, fetched, fetched_of_drawn alone.drawn, repeats.stage]
    at left ⊢
  apply Sprite.redraw
  · exact fun address covered => (alone.data address covered).1
  · exact repeats.get_data alone
  · exact left

end Repeats

end Chain

/-! ## Two starts -/

/-- A start on a chain of one sprite is a visit. -/
theorem board_start_alone {console : Console} {head : UInt16} {value : UInt8}
    (enabled : console.board.chip.registers.busEnabled = true)
    (unstopped : console.board.chip.registers.stopRequested = false)
    (limited : console.board.chip.config.spriteLimit ≠ some 0)
    (starts : Byte.flagged value 0x01 = true)
    (alone : Chain.Alone (console.board.chip.registers.started value) console.board.memory head) :
    let walk : Chain.Walk :=
      ⟨console.board.chip.registers.started value, Metered.fresh console.board.memory, []⟩
    let after := (console.write Console.startAddress value).board
    after.memory = (walk.visit head).memory.memory
      ∧ after.chip.registers
        = { (walk.visit head).registers with working := false, spriteGo := false }
      ∧ after.chip.config = console.board.chip.config := by
  intro walk after
  have some : console.board.chip.config.budget ≠ 0 := by
    unfold Config.budget
    cases limit : console.board.chip.config.spriteLimit with
    | none => decide
    | some most =>
        intro none
        apply limited
        rw [limit]
        exact congrArg _ none
  have whole : Chain.Walk.run console.board.chip.config.budget walk
      = (walk.visit head, .ended) :=
    @Chain.Alone.run walk head alone unstopped _ some
  exact board_start_of_run enabled starts whole

/-- The registers that a visit has left, once the engine has come to rest and is
pointed at a descriptor again. -/
def Chain.Walk.pointedBack (walk : Chain.Walk) (head : UInt16) : Registers :=
  { (walk.visit head).registers with
    working := false
    spriteGo := false
    nextDescriptor := head }

theorem Chain.Walk.repeats_pointedBack (walk : Chain.Walk) (head : UInt16) (value : UInt8) :
    Chain.Walk.Repeats
      ⟨(walk.pointedBack head).started value, Metered.fresh (walk.visit head).memory.memory, []⟩
      walk head := by
  have moved := Chain.registers_visit walk head
  refine ⟨rfl, rfl, rfl, ?_, ?_⟩
  · intro control
    show Chain.scene (walk.visit head).registers control = _
    rw [moved]
    rfl
  · show (walk.visit head).registers.collisionOffset = _
    rw [moved]
    rfl

/-- **The law of redrawing.** A chain of one sprite, which cannot write over its
descriptor or its data, is run, the engine is pointed at it again, and it is run
once more. The second run leaves the latches as the first has left them. It
leaves the frame buffer as the first has left it, too, or, if the sprite draws
shadows, as it was before the first.

This holds for every depth, size, stretch, tilt, flip and position, for sprites
that plot a position several times, for superclipped quadrants and data that is
given up, and for anything in the frame buffer. Both starts may or may not ask
for a note in the depository. -/
theorem redrawing {console : Console} {head : UInt16} {value again : UInt8}
    (enabled : console.board.chip.registers.busEnabled = true)
    (unstopped : console.board.chip.registers.stopRequested = false)
    (limited : console.board.chip.config.spriteLimit ≠ some 0)
    (starts : Byte.flagged value 0x01 = true) (restarts : Byte.flagged again 0x01 = true)
    (alone : Chain.Alone console.board.chip.registers console.board.memory head) :
    let sprite := Sprite.Descriptor.ofMemory console.board.memory head
    let first := console.write Console.startAddress value
    let second := (first.pointedAt head).write Console.startAddress again
    second.board.chip.registers.latches = first.board.chip.registers.latches
      ∧ ∀ target, Screen.inFrame console.board.chip.registers.videoBase target = true →
        second.board.memory.get target
          = if sprite.control.kind.blend = .shadow then console.board.memory.get target
            else first.board.memory.get target := by
  intro sprite first second
  let walk : Chain.Walk :=
    ⟨console.board.chip.registers.started value, Metered.fresh console.board.memory, []⟩
  have started : Chain.Alone walk.registers walk.memory.memory head :=
    ⟨alone.begins, alone.drawn, alone.ends, alone.descriptor, alone.data, alone.depository⟩
  obtain ⟨firstMemory, firstRegisters, firstConfig⟩ :=
    board_start_alone enabled unstopped limited starts started
  -- What the second start asks for is what the first one did: between them only
  -- the link is written.
  let pointed := first.pointedAt head
  have board : pointed.board = _ := first.board_pointedAt head
  have registers : pointed.board.chip.registers = walk.pointedBack head := by
    rw [board]
    show { first.board.chip.registers with nextDescriptor := head } = _
    rw [firstRegisters]
    rfl
  have memory : pointed.board.memory = (walk.visit head).memory.memory := by
    rw [board]
    exact firstMemory
  have stillEnabled : pointed.board.chip.registers.busEnabled = true := by
    rw [registers]
    show (walk.visit head).registers.busEnabled = true
    rw [Chain.registers_visit walk head]
    exact enabled
  have stillUnstopped : pointed.board.chip.registers.stopRequested = false := by
    rw [registers]
    exact (Chain.stopRequested_visit walk head).trans unstopped
  have stillLimited : pointed.board.chip.config.spriteLimit ≠ some 0 := by
    rw [board]
    show first.board.chip.config.spriteLimit ≠ some 0
    rw [firstConfig]
    exact limited
  have repeats := walk.repeats_pointedBack head again
  rw [← registers, ← memory] at repeats
  have still := repeats.stillAlone started
  obtain ⟨secondMemory, secondRegisters, _⟩ :=
    board_start_alone stillEnabled stillUnstopped stillLimited restarts still
  obtain ⟨latches, frame⟩ := repeats.drawing started
  refine ⟨?_, ?_⟩
  · rw [secondRegisters, firstRegisters]
    show (Chain.Walk.visit _ head).registers.latches = (walk.visit head).registers.latches
    rw [still.visit.1, started.visit.1]
    exact latches
  · intro target inside
    rw [secondMemory, firstMemory, still.get_frame (repeats.videoBase ▸ inside),
      started.get_frame inside]
    exact frame target inside

/-! ## A shadow of two quadrants -/

namespace Shadow

def sprite : Sprite.Descriptor :=
  { Sprite.sampleSprite with control0 := 0xC6 }

def memory : Memory :=
  ((Memory.filled 0).load 0x2000 [0xC6, 0x88, 0, 0, 0, 0x00, 0x30, 0, 0, 0, 0]).load 0x3000
    Sprite.sampleBytes

def console : Console where
  board :=
    { chip :=
        { registers :=
            { Registers.initial with
              busEnabled := true
              nextDescriptor := 0x2000
              videoBase := 0xC000
              collisionOffset := 0x0100 }
          config := Config.standard
          lastRun := none }
      memory := memory
      socket := none
      charges := []
      reversedNotices := [] }
  palette := Console.greys

theorem ofMemory : Sprite.Descriptor.ofMemory memory 0x2000 = sprite := by
  have bytes : memory.get 0x2000 = 0xC6 ∧ memory.get (0x2000 + 1) = 0x88
      ∧ memory.get (0x2000 + 2) = 0 ∧ memory.word (0x2000 + 3) = 0
      ∧ memory.word (0x2000 + 5) = 0x3000 := by
    simp [memory, Sprite.sampleBytes, Memory.load, Memory.word, Memory.get_set, Word.ofBytes]
    decide
  obtain ⟨control0, control1, collision, link, data⟩ := bytes
  unfold Sprite.Descriptor.ofMemory
  rw [control0, control1, collision, link, data]
  decide

theorem alone : Chain.Alone console.board.chip.registers memory 0x2000 := by
  have registers : console.board.chip.registers.videoBase = 0xC000
      ∧ console.board.chip.registers.collisionOffset = 0x0100 := ⟨rfl, rfl⟩
  have first : sprite.control.startQuadrant = .downRight := by decide
  refine ⟨by decide, ?_, ?_, ?_, ?_, by decide⟩
  · rw [ofMemory]
    decide
  · rw [ofMemory]
    decide
  · rw [ofMemory]
    unfold Chain.OutOfReach
    rw [registers.1, registers.2]
    decide
  · rw [ofMemory, first]
    show ∀ address, (Sprite.Cursor.start 0x3000).covers
      (Sprite.scriptBytes (Sprite.readSprite memory 0x3000 .downRight)) address → _
    rw [memory, Sprite.readSprite_sample (Sprite.slice_load_sample _)]
    unfold Chain.OutOfReach
    rw [registers.1, registers.2]
    rintro address ⟨offset, inside, rfl⟩
    have places : ∀ offset < 7, Screen.inFrame 0xC000 (0x3000 + UInt16.ofNat offset) = false
        ∧ (0x3000 : UInt16) + UInt16.ofNat offset ≠ 0x2000 + 0x0100 := by
      decide
    exact places offset inside

end Shadow

/-- Drawn twice, a shadow is gone. -/
theorem shadow_redrawn :
    let first := Shadow.console.write Console.startAddress 0x01
    let second := (first.pointedAt 0x2000).write Console.startAddress 0x05
    second.board.chip.registers.latches = first.board.chip.registers.latches
      ∧ ∀ target, Screen.inFrame 0xC000 target = true →
        second.board.memory.get target = Shadow.memory.get target := by
  have enabled : Shadow.console.board.chip.registers.busEnabled = true := rfl
  have unstopped : Shadow.console.board.chip.registers.stopRequested = false := rfl
  have limited : Shadow.console.board.chip.config.spriteLimit ≠ some 0 := by decide
  have starts : Byte.flagged 0x01 0x01 = true := by decide
  have restarts : Byte.flagged 0x05 0x01 = true := by decide
  have shadow : (Sprite.Descriptor.ofMemory Shadow.memory 0x2000).control.kind.blend = .shadow := by
    rw [Shadow.ofMemory]
    decide
  obtain ⟨latches, frame⟩ :=
    redrawing enabled unstopped limited starts restarts Shadow.alone
  refine ⟨latches, ?_⟩
  intro target inside
  exact (frame target inside).trans (if_pos shadow)

end LynxSuzy
