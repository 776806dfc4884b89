import LynxSuzy.Proofs.Walk

/-!
Contract: what a run spends its accesses to memory on.

Owns: the accesses of a visit, counted from what the visit reports: the bytes of
the descriptor, the data gone through, the pixels painted and the results left.
A run makes the accesses of its visits and no others.

Does **not** own: how many these can be (`Proofs.Bounds`).
-/

set_option autoImplicit false

namespace LynxSuzy

namespace Sprite

/-! ## Descriptors -/

def Control.descriptorBytes (control : Control) : Nat :=
  if control.skip then 5
  else
    11 + (if control.reload.hasSize then 4 else 0) + (if control.reload.hasStretch then 2 else 0)
      + (if control.reload.hasTilt then 2 else 0) + (if control.reloadPalette then 8 else 0)

theorem Fetch.memory_optional (fetch : Fetch) (present : Bool) {field : Fetch → Fetch} (count : Nat)
    (costs : (field fetch).memory = fetch.memory.charged count) :
    (fetch.optional present field).memory
      = fetch.memory.charged (if present then count else 0) := by
  cases present with
  | false => rfl
  | true => exact costs

theorem Fetch.memory_palette (fetch : Fetch) : fetch.palette.memory = fetch.memory.charged 8 := by
  unfold palette
  rw [Metered.readBytes_eq]
  rfl

/-- **Reading a descriptor costs its bytes** and leaves memory alone. -/
theorem memory_fetch {memory : Metered} {address : UInt16} {latches : Latches} {fetched : Fetched}
    (reads : Descriptor.fetch memory address latches = fetched) :
    fetched.memory = memory.charged fetched.descriptor.control.descriptorBytes := by
  unfold Descriptor.fetch at reads
  extract_lets control0 control1 collision link control data hpos vpos first sized stretched tilted
    full at reads
  split at reads
  · -- Nothing behind the link of a skipped sprite is read.
    rename_i skips
    subst reads
    have skipped : (Descriptor.control
        ⟨address, control0.1, control1.1, collision.1, link.1, 0⟩).skip = true := skips
    simp only [Control.descriptorBytes, skipped, if_true]
    rfl
  · rename_i draws
    subst reads
    have drawn : (Descriptor.control
        ⟨address, control0.1, control1.1, collision.1, link.1, data.1⟩).skip = false :=
      Bool.eq_false_iff.2 draws
    have start : first.memory = memory.charged 11 := rfl
    have afterSize : sized.memory = _ :=
      first.memory_optional control.reload.hasSize 4 rfl
    have afterStretch : stretched.memory = _ :=
      sized.memory_optional control.reload.hasStretch 2 rfl
    have afterTilt : tilted.memory = _ :=
      stretched.memory_optional control.reload.hasTilt 2 rfl
    have afterPalette : full.memory = _ :=
      tilted.memory_optional control.reloadPalette 8 tilted.memory_palette
    simp only [Control.descriptorBytes, drawn, Bool.false_eq_true, if_false]
    rw [afterPalette, afterTilt, afterStretch, afterSize, start]
    simp only [Metered.charged, Nat.add_assoc]
    rfl

/-! ## Passes -/

/-- Accesses to a sprite's data: every header, and the bytes of lines that are
drawn. -/
def PassSummary.dataAccesses (summary : PassSummary) : Nat :=
  summary.headers + summary.dataBytes

/-- Accesses to the frame buffer: a pixel that is drawn is read and written, one
that is blocked is read. -/
def PassSummary.frameAccesses (summary : PassSummary) : Nat :=
  2 * summary.drawn + summary.blocked

def Summary.dataAccesses (summary : Summary) : Nat :=
  (summary.passes.map PassSummary.dataAccesses).sum

def Summary.frameAccesses (summary : Summary) : Nat :=
  (summary.passes.map PassSummary.frameAccesses).sum

/-- The bytes that a reading goes through are its headers and its lines. -/
theorem Reading.bytes_eq (reading : Reading) :
    reading.bytes = reading.headers + (reading.lines.map List.length).sum := by
  obtain ⟨lines, ending⟩ := reading
  induction lines with
  | nil => simp
  | cons line lines recurse =>
      have longer := bytes_cons line ⟨lines, ending⟩
      have counted := headers_cons line ⟨lines, ending⟩
      simp only [cons] at longer counted
      rw [longer, counted, recurse, List.map_cons, List.sum_cons]
      dsimp only
      omega

theorem Job.accesses_perform (job : Job) (drawing : Drawing) (entry : Quadrant × Reading) :
    ∃ pass, (job.perform drawing entry).reversedPasses = pass :: drawing.reversedPasses
      ∧ (job.perform drawing entry).canvas.memory.accesses
        = drawing.canvas.memory.accesses
          + (pass.summary.dataAccesses + pass.summary.frameAccesses) := by
  obtain ⟨quadrant, reading⟩ := entry
  cases draws : job.draws quadrant drawing.latches with
  | true =>
      rw [perform_of_draws reading draws]
      refine ⟨_, rfl, ?_⟩
      have paint := (Painted.addAll_spec job.brush
        (((job.course quadrant).passTrace reading.lines drawing.latches).rows.flatMap
          Row.placements) ⟨drawing.canvas, 0, 0⟩).1
      simp only [drawReading, Painted.addRows_eq, PassSummary.dataAccesses,
        PassSummary.frameAccesses, Canvas.charged, Metered.charged, Reading.bytes_eq]
      simp only [Painted.cost] at paint
      omega
  | false =>
      rw [perform_of_skips reading draws]
      exact ⟨_, rfl, rfl⟩

/-- **Drawing a sprite costs the accesses of its passes.** -/
theorem accesses_draw (scene : Scene) (descriptor : Descriptor) (latches : Latches)
    (canvas : Canvas) :
    let drawing := draw scene descriptor latches canvas
    drawing.canvas.memory.accesses
      = canvas.memory.accesses + (drawing.summary.dataAccesses + drawing.summary.frameAccesses) := by
  obtain ⟨_, _, drawn, balance, _⟩ := draw_spec scene descriptor latches canvas
    (fun drawing => drawing.canvas.memory.accesses
      = canvas.memory.accesses + (drawing.summary.dataAccesses + drawing.summary.frameAccesses))
    (fun _ _ => True)
    (fun drawing entry _ balance => by
      obtain ⟨pass, passed, accesses⟩ :=
        (Job.ofSprite scene descriptor latches).accesses_perform drawing entry
      refine ⟨?_, pass, passed, trivial⟩
      rw [accesses, balance]
      simp only [Summary.dataAccesses, Summary.frameAccesses, Drawing.summary, Drawing.passes,
        passed, List.reverse_cons, List.map_append, List.map_cons, List.map_nil, List.sum_append,
        List.sum_cons, List.sum_nil]
      omega)
    rfl
  rw [drawn]
  exact balance

end Sprite

namespace Chain

/-! ## Visits -/

namespace Visit

def dataAccesses (visit : Visit) : Nat :=
  (visit.summary.map Sprite.Summary.dataAccesses).getD 0

def frameAccesses (visit : Visit) : Nat :=
  (visit.summary.map Sprite.Summary.frameAccesses).getD 0

/-- Accesses to the depository. The collision slot is written, and the note in
the top bit is read and written. -/
def depositoryAccesses (everOn : Bool) (visit : Visit) : Nat :=
  if visit.summary.isSome then
    (if visit.collidable then 1 else 0) + (if everOn then 2 else 0)
  else 0

def accesses (everOn : Bool) (visit : Visit) : Nat :=
  visit.descriptor.control.descriptorBytes + visit.dataAccesses + visit.frameAccesses
    + visit.depositoryAccesses everOn

end Visit

theorem accesses_deposit (registers : Registers) (descriptor : Sprite.Descriptor)
    (drawing : Sprite.Drawing) :
    (deposit registers descriptor drawing).accesses
      = drawing.canvas.memory.accesses
        + ((if collidable registers descriptor.control then 1 else 0)
          + (if registers.everOn then 2 else 0)) := by
  unfold deposit
  extract_lets depository memory
  have slot : memory.accesses = drawing.canvas.memory.accesses
      + (if collidable registers descriptor.control then 1 else 0) := by
    simp only [memory]
    split <;> rfl
  split
  · rw [← Nat.add_assoc, ← slot]
    rfl
  · rw [Nat.add_zero, slot]

/-- **A visit reports what it costs.** -/
theorem accesses_visit (walk : Walk) (address : UInt16) :
    ∃ visit, (walk.visit address).reversedVisits = visit :: walk.reversedVisits
      ∧ (walk.visit address).memory.accesses
        = walk.memory.accesses + visit.accesses walk.registers.everOn := by
  have fetched : (walk.fetched address).memory
      = walk.memory.charged (walk.fetched address).descriptor.control.descriptorBytes :=
    Sprite.memory_fetch rfl
  cases skips : (walk.fetched address).descriptor.control.skip with
  | true =>
      rw [visit_of_skip skips]
      refine ⟨_, rfl, ?_⟩
      simp only [fetched]
      rfl
  | false =>
      rw [visit_of_draw skips]
      refine ⟨_, rfl, ?_⟩
      have drawn : (walk.drawing address).canvas.memory.accesses
          = (walk.fetched address).memory.accesses
            + ((walk.drawing address).summary.dataAccesses
              + (walk.drawing address).summary.frameAccesses) :=
        Sprite.accesses_draw _ _ _ _
      rw [fetched] at drawn
      simp only [accesses_deposit, drawn, Metered.charged, Visit.accesses, Visit.dataAccesses,
        Visit.frameAccesses, Visit.depositoryAccesses, Option.map_some, Option.getD_some,
        Option.isSome_some, if_true, Nat.add_assoc]

end Chain

/-- **A run makes the accesses of its visits and no others.** -/
theorem Run.accesses_eq (budget : Nat) (registers : Registers) (memory : Memory) :
    let run := Run.ofRegisters budget registers memory
    run.memory.accesses = (run.visits.map (Chain.Visit.accesses registers.everOn)).sum := by
  have balance := (Chain.run_spec
    (fun walk => walk.registers.everOn = registers.everOn
      ∧ walk.memory.accesses = (walk.visits.map (Chain.Visit.accesses registers.everOn)).sum)
    (fun _ => True)
    (fun walk balance => balance)
    (fun walk address balance => by
      obtain ⟨visit, visited, accesses⟩ := Chain.accesses_visit walk address
      refine ⟨⟨?_, ?_⟩, visit, visited, trivial⟩
      · rw [Chain.everOn_visit, balance.1]
      · rw [accesses, balance.1, balance.2]
        simp only [Chain.Walk.visits, visited, List.reverse_cons, List.map_append, List.map_cons,
          List.map_nil, List.sum_append, List.sum_cons, List.sum_nil, Nat.add_zero])
    budget ⟨registers, Metered.fresh memory, []⟩ ⟨rfl, rfl⟩).1
  exact balance.2

end LynxSuzy
