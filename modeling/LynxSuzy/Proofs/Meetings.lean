import LynxSuzy.Proofs.Overlap

/-!
Contract: what the pixels of a sprite meet, and that the order of meetings does
not matter.

Owns: the collision buffer as one in which slots only rise, so that meetings can
be recorded in any order; the nibbles that a list of placements is drawn over;
and the effect of plotting on the screen and on the collision buffer, which two
lists of placements have in either order if they visit different positions.

Does **not** own: the placements of a sprite (`Proofs.Coverage`).
-/

set_option autoImplicit false

namespace LynxSuzy

/-! ## Slots that only rise -/

namespace Collisions

variable (buffer : Collisions)

theorem ext_get {first second : Collisions}
    (slots : ∀ slot : Fin 16, first.get slot = second.get slot)
    (sticky : first.sticky = second.sticky) : first = second := by
  obtain ⟨firstSlots, firstSticky⟩ := first
  obtain ⟨secondSlots, secondSticky⟩ := second
  obtain rfl : firstSticky = secondSticky := sticky
  congr 1
  apply Vector.ext
  intro index bound
  have same := slots ⟨index, bound⟩
  simpa [get, entryAt, Nat.mod_eq_of_lt bound] using same

theorem get_set (number : Nat) (value : UInt8) (slot : Fin 16) :
    (buffer.set number value).get slot
      = if Fin.ofNat 16 number = slot then value else buffer.get slot := by
  simp [get, set, entryAt, Vector.getElem_set, Fin.ext_iff]

theorem get_raise (number value : UInt8) (slot : Fin 16) :
    (buffer.raise number value).get slot
      = if Fin.ofNat 16 number.toNat = slot ∧ buffer.get slot < value then value
        else buffer.get slot := by
  have named : Fin.ofNat 16 number.toNat = slot → buffer.get number.toNat = buffer.get slot := by
    rintro rfl
    simp [get, entryAt]
  unfold raise
  split
  · show (buffer.set number.toNat value).get slot = _
    rw [get_set]
    grind
  · grind

theorem sticky_raise (number value : UInt8) :
    (buffer.raise number value).sticky
      = (buffer.sticky || decide (buffer.get (Fin.ofNat 16 number.toNat) < value)) := by
  have named : buffer.get (Fin.ofNat 16 number.toNat) = buffer.get number.toNat := by
    simp [get, entryAt]
  rw [named]
  unfold raise
  split
  · rename_i rises
    simp [rises]
  · rename_i stays
    simp [stays]

theorem raise_comm (number value other further : UInt8) :
    (buffer.raise number value).raise other further
      = (buffer.raise other further).raise number value := by
  apply ext_get
  · intro slot
    simp only [get_raise]
    grind
  · simp only [sticky_raise, get_raise]
    grind

/-- **Meetings are recorded in any order.** -/
theorem meet_comm (number existing other further : UInt8) :
    (buffer.meet number existing).meet other further
      = (buffer.meet other further).meet number existing := by
  unfold meet
  extract_lets number existing other further
  by_cases first : number = 0 ∨ existing = 0
  · rcases first with none | none <;> simp [none]
  · by_cases second : other = 0 ∨ further = 0
    · rcases second with none | none <;> simp [none]
    · obtain ⟨numbered, filled⟩ := not_or.1 first
      obtain ⟨otherNumbered, otherFilled⟩ := not_or.1 second
      simp only [numbered, filled, otherNumbered, otherFilled, if_false]
      -- Each raise of the one meeting is taken past both raises of the other.
      rw [(buffer.raise number existing).raise_comm existing number other further,
        ((buffer.raise number existing).raise other further).raise_comm existing number further
          other,
        buffer.raise_comm number existing other further,
        (buffer.raise other further).raise_comm number existing further other]

end Collisions

namespace Brush

theorem collide_comm (brush other : Brush) (collisions : Collisions) (existing further : UInt8) :
    other.collide (brush.collide collisions existing) further
      = brush.collide (other.collide collisions further) existing := by
  unfold collide
  cases brush.collision with
  | none => rfl
  | some number =>
      cases other.collision with
      | none => rfl
      | some otherNumber =>
          dsimp only
          split
          · split
            · exact collisions.meet_comm _ _ _ _
            · rfl
          · rfl

theorem foldl_collide_comm (brush other : Brush) (first second : List UInt8)
    (collisions : Collisions) :
    second.foldl other.collide (first.foldl brush.collide collisions)
      = first.foldl brush.collide (second.foldl other.collide collisions) := by
  have past (existing : UInt8) (collisions : Collisions) :
      second.foldl other.collide (brush.collide collisions existing)
        = brush.collide (second.foldl other.collide collisions) existing :=
    List.foldl_hom (brush.collide · existing) fun collisions further =>
      brush.collide_comm other collisions existing further
  exact (List.foldl_hom (second.foldl other.collide) fun collisions existing =>
    (past existing collisions).symm).symm

/-! ## What is met on the way -/

/-- The nibble that a placement is drawn over, if it is drawn. -/
def met (brush : Brush) (canvas : Canvas) (placement : Sprite.Placement) : List UInt8 :=
  let existing := brush.found canvas placement.x placement.y
  let pen := Byte.nibble placement.pen .low
  if pen ≠ 0 ∧ (brush.blend.combine existing pen).isSome then [existing] else []

theorem record_eq (brush : Brush) (canvas : Canvas) (collisions : Collisions)
    (placement : Sprite.Placement) :
    brush.record canvas collisions placement
      = (brush.met canvas placement).foldl brush.collide collisions := by
  unfold record met
  extract_lets existing pen
  split
  · rfl
  · rfl

end Brush

namespace Sprite

def meetings (brush : Brush) : Canvas → List Placement → List UInt8
  | _, [] => []
  | canvas, placement :: rest =>
      brush.met canvas placement
        ++ meetings brush (brush.plot canvas placement.x placement.y placement.pen).2 rest

section Meetings

variable {brush : Brush} {placements : List Placement}

/-- **The collision buffer is told of one meeting after the other**, also where a
sprite meets itself. -/
theorem collisions_eq_meetings :
    ∀ canvas : Canvas,
      (∀ placement ∈ placements, Screen.has placement.x placement.y = true) →
      (Painted.plotAll brush canvas placements).collisions
        = (meetings brush canvas placements).foldl brush.collide canvas.collisions := by
  induction placements with
  | nil => exact fun _ _ => rfl
  | cons placement rest recurse =>
      intro canvas onScreen
      have first := brush.collisions_plot canvas (onScreen placement List.mem_cons_self)
      have further := recurse (brush.plot canvas placement.x placement.y placement.pen).2
        fun later member => onScreen later (List.mem_cons_of_mem _ member)
      rw [first, Brush.record_eq] at further
      rw [meetings, List.foldl_append, ← further]
      rfl

/-- What is met depends on the visited positions alone. -/
theorem meetings_congr :
    ∀ first second : Canvas,
      (∀ placement ∈ placements, Screen.has placement.x placement.y = true) →
      (∀ placement ∈ placements, brush.found first placement.x placement.y
        = brush.found second placement.x placement.y) →
      meetings brush first placements = meetings brush second placements := by
  induction placements with
  | nil => exact fun _ _ _ _ => rfl
  | cons placement rest recurse =>
      intro first second onScreen same
      have here : brush.met first placement = brush.met second placement := by
        unfold Brush.met
        rw [same placement List.mem_cons_self]
      rw [meetings, meetings, here]
      congr 1
      apply recurse
      · exact fun later member => onScreen later (List.mem_cons_of_mem _ member)
      · intro later member
        have there := onScreen later (List.mem_cons_of_mem _ member)
        rw [brush.found_plot first _ _ _ there, brush.found_plot second _ _ _ there,
          same later (List.mem_cons_of_mem _ member)]

end Meetings

end Sprite

/-! ## Canvases that look the same -/

structure Canvas.SameScreen (base : UInt16) (first second : Canvas) : Prop where
  frame : ∀ target, Screen.inFrame base target = true →
    first.memory.memory.get target = second.memory.memory.get target
  collisions : first.collisions = second.collisions

namespace Canvas.SameScreen

variable {base : UInt16} {first second third : Canvas}

theorem symm (same : first.SameScreen base second) : second.SameScreen base first :=
  ⟨fun target inside => (same.frame target inside).symm, same.collisions.symm⟩

theorem trans (same : first.SameScreen base second) (further : second.SameScreen base third) :
    first.SameScreen base third :=
  ⟨fun target inside => (same.frame target inside).trans (further.frame target inside),
    same.collisions.trans further.collisions⟩

/-- The screen does not show how often memory has been accessed. -/
theorem charged (base : UInt16) (canvas : Canvas) (count : Nat) :
    (canvas.charged count).SameScreen base canvas :=
  ⟨fun _ _ => rfl, rfl⟩

end Canvas.SameScreen

namespace Sprite

open Painted (plotAll)

theorem plotAll_congr {brush : Brush} {first second : Canvas} {placements : List Placement}
    (onScreen : ∀ placement ∈ placements, Screen.has placement.x placement.y = true)
    (same : first.SameScreen brush.videoBase second) :
    (plotAll brush first placements).SameScreen brush.videoBase
      (plotAll brush second placements) := by
  constructor
  · intro target inside
    apply @Memory.get_eq_of_found brush (plotAll brush first placements)
      (plotAll brush second placements) target inside
    intro x y visible
    rw [found_plotAll brush placements visible, found_plotAll brush placements visible,
      Brush.found_congr same.frame visible]
  · rw [collisions_eq_meetings first onScreen, collisions_eq_meetings second onScreen,
      same.collisions]
    congr 1
    apply meetings_congr first second onScreen
    exact fun placement member => Brush.found_congr same.frame (onScreen placement member)

/-- **Placements that visit different positions can be plotted in either order.** -/
theorem plotAll_comm {brush other : Brush} (base : other.videoBase = brush.videoBase)
    (canvas : Canvas) {first second : List Placement}
    (firstOnScreen : ∀ placement ∈ first, Screen.has placement.x placement.y = true)
    (secondOnScreen : ∀ placement ∈ second, Screen.has placement.x placement.y = true)
    (apart : List.Disjoint (first.map Placement.position) (second.map Placement.position)) :
    (plotAll other (plotAll brush canvas first) second).SameScreen brush.videoBase
      (plotAll brush (plotAll other canvas second) first) := by
  have found (canvas : Canvas) (x y : Int) : other.found canvas x y = brush.found canvas x y := by
    rw [Brush.found, Brush.found, base]
  constructor
  · intro target inside
    apply @Memory.get_eq_of_found brush (plotAll other (plotAll brush canvas first) second)
      (plotAll brush (plotAll other canvas second) first) target inside
    intro x y visible
    by_cases visited : (x, y) ∈ first.map Placement.position
    · have spared : (x, y) ∉ second.map Placement.position := fun again => apart visited again
      rw [← found, found_plotAll_of_notMem other _ visible spared, found,
        found_plotAll brush first visible, found_plotAll brush first visible, ← found, ← found,
        found_plotAll_of_notMem other _ visible spared]
    · rw [found_plotAll_of_notMem brush _ visible visited, ← found, ← found,
        found_plotAll other second visible, found_plotAll other second visible, found, found,
        found_plotAll_of_notMem brush _ visible visited]
  · have firstMeets : meetings brush (plotAll other canvas second) first
        = meetings brush canvas first := by
      apply meetings_congr _ _ firstOnScreen
      intro placement member
      rw [← found, ← found]
      apply found_plotAll_of_notMem other canvas (firstOnScreen placement member)
      exact fun again => apart (List.mem_map_of_mem member) again
    have secondMeets : meetings other (plotAll brush canvas first) second
        = meetings other canvas second := by
      apply meetings_congr _ _ secondOnScreen
      intro placement member
      rw [found, found]
      apply found_plotAll_of_notMem brush canvas (secondOnScreen placement member)
      exact fun again => apart again (List.mem_map_of_mem member)
    rw [collisions_eq_meetings _ secondOnScreen, collisions_eq_meetings _ firstOnScreen,
      collisions_eq_meetings _ firstOnScreen, collisions_eq_meetings _ secondOnScreen,
      firstMeets, secondMeets]
    exact brush.foldl_collide_comm other _ _ _

end Sprite

end LynxSuzy
