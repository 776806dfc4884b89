import LynxSuzy.Proofs.Slots

/-!
Contract: what a list of meetings comes to.

Owns: the collision buffer after any meetings, slot by slot the greatest number
that it held or was told; the sticky flag, which says that some slot has risen; and
what follows, that neither the order of meetings counts, nor how often each is
recorded, nor from which of its two sides.

Does **not** own: which meetings a sprite has (`Proofs.Meetings`).
-/

set_option autoImplicit false

namespace LynxSuzy

theorem Byte.nibble_low_eq_mod (byte : UInt8) : nibble byte .low = byte % 16 := by
  apply UInt8.toNat_inj.1
  rw [toNat_nibble_low, UInt8.toNat_mod]
  rfl

namespace Collisions

theorem slots_eq_iff {first second : Collisions} :
    first.slots = second.slots ↔ ∀ slot : Fin 16, first.get slot = second.get slot := by
  constructor
  · exact fun same slot => get_of_slots same slot
  · intro same
    have whole : { first with sticky := true } = { second with sticky := true } :=
      ext_get same rfl
    exact (Collisions.mk.inj whole).1

/-! ## Raises -/

def raiseAll (buffer : Collisions) (raises : List (UInt8 × UInt8)) : Collisions :=
  raises.foldl (fun buffer raise => buffer.raise raise.1 raise.2) buffer

/-- A buffer after some raises. Each slot holds the greatest of what it held and what
it was raised to, and the flag says whether any has risen. -/
structure Raised (before : Collisions) (raises : List (UInt8 × UInt8)) (after : Collisions) :
    Prop where
  kept : ∀ slot : Fin 16, before.get slot ≤ after.get slot
  reached : ∀ slot : Fin 16, after.get slot = before.get slot
    ∨ ∃ raise ∈ raises, Fin.ofNat 16 raise.1.toNat = slot ∧ raise.2 = after.get slot
  greatest : ∀ raise ∈ raises, raise.2 ≤ after.get (Fin.ofNat 16 raise.1.toNat)
  sticky : after.sticky = (before.sticky || decide (after.slots ≠ before.slots))

namespace Raised

theorem refl (buffer : Collisions) : Raised buffer [] buffer where
  kept _ := UInt8.le_refl _
  reached _ := Or.inl rfl
  greatest _ member := by cases member
  sticky := by simp

/-- A single raise that has an effect is seen in the slots. -/
theorem single (buffer : Collisions) (number value : UInt8) :
    Raised buffer [(number, value)] (buffer.raise number value) := by
  have slots := buffer.get_raise number value
  have rises : (buffer.raise number value).slots ≠ buffer.slots
      ↔ buffer.get (Fin.ofNat 16 number.toNat) < value := by
    rw [ne_eq, slots_eq_iff, ← not_iff_not, not_not]
    constructor
    · intro same higher
      have there := same (Fin.ofNat 16 number.toNat)
      rw [slots, if_pos ⟨rfl, higher⟩] at there
      exact absurd (there ▸ higher) (UInt8.lt_irrefl _)
    · intro stays slot
      rw [slots, if_neg]
      rintro ⟨rfl, higher⟩
      exact stays higher
  refine ⟨?_, ?_, ?_, ?_⟩
  · intro slot
    rw [slots]
    split
    · rename_i higher
      exact UInt8.le_of_lt higher.2
    · exact UInt8.le_refl _
  · intro slot
    rw [slots]
    split
    · rename_i higher
      exact Or.inr ⟨_, List.mem_singleton_self _, higher.1, rfl⟩
    · exact Or.inl rfl
  · intro raise member
    rw [List.mem_singleton.1 member, slots]
    split
    · exact UInt8.le_refl _
    · rename_i stays
      exact UInt8.not_lt.1 fun higher => stays ⟨rfl, higher⟩
  · rw [sticky_raise, decide_eq_decide.2 rises]

variable {before between after : Collisions} {first second : List (UInt8 × UInt8)}

/-- **Raises after raises.** A slot that has risen does not come back, so the flag
sees the first as well as the second. -/
theorem trans (raised : Raised before first between) (further : Raised between second after) :
    Raised before (first ++ second) after := by
  have kept (slot : Fin 16) := UInt8.le_trans (raised.kept slot) (further.kept slot)
  refine ⟨kept, ?_, ?_, ?_⟩
  · intro slot
    rcases further.reached slot with same | ⟨raise, member, named, value⟩
    · rcases raised.reached slot with still | ⟨raise, member, named, value⟩
      · exact Or.inl (same.trans still)
      · exact Or.inr ⟨raise, List.mem_append_left _ member, named, value.trans same.symm⟩
    · exact Or.inr ⟨raise, List.mem_append_right _ member, named, value⟩
  · intro raise member
    rcases List.mem_append.1 member with early | late
    · exact UInt8.le_trans (raised.greatest raise early) (further.kept _)
    · exact further.greatest raise late
  · have changed : after.slots ≠ before.slots
        ↔ between.slots ≠ before.slots ∨ after.slots ≠ between.slots := by
      rw [ne_eq, ne_eq, ne_eq, ← not_and_or, not_iff_not]
      constructor
      · intro same
        have middle : between.slots = before.slots := by
          rw [slots_eq_iff] at same ⊢
          intro slot
          exact UInt8.le_antisymm (same slot ▸ further.kept slot) (raised.kept slot)
        exact ⟨middle, same.trans middle.symm⟩
      · exact fun ⟨early, late⟩ => late.trans early
    rw [further.sticky, raised.sticky, Bool.or_assoc, ← Bool.decide_or, decide_eq_decide.2 changed]

end Raised

theorem raised_raiseAll (raises : List (UInt8 × UInt8)) :
    ∀ buffer : Collisions, Raised buffer raises (buffer.raiseAll raises) := by
  induction raises with
  | nil => exact Raised.refl
  | cons raise rest recurse =>
      intro buffer
      exact (Raised.single buffer raise.1 raise.2).trans (recurse (buffer.raise raise.1 raise.2))

/-! ## Meetings -/

/-- Record meetings in order, each as the number of a sprite and the nibble that it
was drawn over. -/
def meetAll (buffer : Collisions) (meetings : List (UInt8 × UInt8)) : Collisions :=
  meetings.foldl (fun buffer meeting => buffer.meet meeting.1 meeting.2) buffer

/-- Some meeting sets a value against a slot, from one of its two sides. Both
numbers of a meeting are taken modulo sixteen. -/
def Tells (meetings : List (UInt8 × UInt8)) (slot : Fin 16) (value : UInt8) : Prop :=
  ∃ meeting ∈ meetings,
    (meeting.1.toNat % 16 = slot ∧ meeting.2 % 16 = value)
      ∨ (meeting.2.toNat % 16 = slot ∧ meeting.1 % 16 = value)

/-- The two raises of a meeting, or none where one side is zero. -/
def sides (meeting : UInt8 × UInt8) : List (UInt8 × UInt8) :=
  let number := meeting.1 % 16
  let existing := meeting.2 % 16
  if number = 0 ∨ existing = 0 then [] else [(number, existing), (existing, number)]

theorem meet_eq_raiseAll (buffer : Collisions) (meeting : UInt8 × UInt8) :
    buffer.meet meeting.1 meeting.2 = buffer.raiseAll (sides meeting) := by
  simp only [meet, sides, Byte.nibble_low_eq_mod]
  by_cases number : meeting.1 % 16 = 0
  · rw [if_pos number, if_pos (Or.inl number)]
    rfl
  · rw [if_neg number]
    by_cases existing : meeting.2 % 16 = 0
    · rw [if_pos existing, if_pos (Or.inr existing)]
      rfl
    · rw [if_neg existing, if_neg (not_or.2 ⟨number, existing⟩)]
      rfl

/-- **Meetings are raises.** -/
theorem meetAll_eq_raiseAll (buffer : Collisions) (meetings : List (UInt8 × UInt8)) :
    buffer.meetAll meetings = buffer.raiseAll (meetings.flatMap sides) := by
  rw [raiseAll, List.foldl_flatMap, meetAll]
  simp only [meet_eq_raiseAll]
  rfl

theorem slot_eq_zero_iff (number : UInt8) :
    Fin.ofNat 16 number.toNat = 0 ↔ number % 16 = 0 := by
  rw [Fin.ext_iff, ← UInt8.toNat_inj, UInt8.toNat_mod]
  rfl

theorem slot_mod (number : UInt8) :
    Fin.ofNat 16 (number % 16).toNat = Fin.ofNat 16 number.toNat := by
  rw [Fin.ext_iff, UInt8.toNat_mod]
  exact Nat.mod_mod _ _

section Sides

variable {meetings : List (UInt8 × UInt8)} {meeting raise : UInt8 × UInt8}

theorem mem_sides :
    raise ∈ sides meeting
      ↔ (meeting.1 % 16 ≠ 0 ∧ meeting.2 % 16 ≠ 0)
        ∧ (raise = (meeting.1 % 16, meeting.2 % 16) ∨ raise = (meeting.2 % 16, meeting.1 % 16)) := by
  unfold sides
  extract_lets number existing
  by_cases none : number = 0 ∨ existing = 0
  · rw [if_pos none]
    constructor
    · intro member
      cases member
    · exact fun raised => absurd none (not_or.2 raised.1)
  · rw [if_neg none, List.mem_pair]
    exact (and_iff_right (not_or.1 none)).symm

theorem tells_of_side (member : raise ∈ meetings.flatMap sides) :
    Fin.ofNat 16 raise.1.toNat ≠ 0 ∧ Tells meetings (Fin.ofNat 16 raise.1.toNat) raise.2 := by
  obtain ⟨meeting, among, side⟩ := List.mem_flatMap.1 member
  obtain ⟨⟨numbered, filled⟩, rfl | rfl⟩ := mem_sides.1 side
  · rw [slot_mod]
    exact ⟨mt (slot_eq_zero_iff _).1 numbered, meeting, among, Or.inl ⟨rfl, rfl⟩⟩
  · rw [slot_mod]
    exact ⟨mt (slot_eq_zero_iff _).1 filled, meeting, among, Or.inr ⟨rfl, rfl⟩⟩

/-- What is told of a slot other than zero is a raise, unless it is zero. -/
theorem side_of_tells {slot : Fin 16} {value : UInt8} (counts : slot ≠ 0) (filled : value ≠ 0)
    (tells : Tells meetings slot value) :
    ∃ raise ∈ meetings.flatMap sides, Fin.ofNat 16 raise.1.toNat = slot ∧ raise.2 = value := by
  obtain ⟨meeting, among, ⟨named, rfl⟩ | ⟨named, rfl⟩⟩ := tells
  · obtain rfl : Fin.ofNat 16 meeting.1.toNat = slot := Fin.ext_iff.2 named
    have numbered := mt (slot_eq_zero_iff _).2 counts
    exact ⟨(meeting.1 % 16, meeting.2 % 16),
      List.mem_flatMap.2 ⟨meeting, among, mem_sides.2 ⟨⟨numbered, filled⟩, Or.inl rfl⟩⟩,
      slot_mod meeting.1, rfl⟩
  · obtain rfl : Fin.ofNat 16 meeting.2.toNat = slot := Fin.ext_iff.2 named
    have numbered := mt (slot_eq_zero_iff _).2 counts
    exact ⟨(meeting.2 % 16, meeting.1 % 16),
      List.mem_flatMap.2 ⟨meeting, among, mem_sides.2 ⟨⟨filled, numbered⟩, Or.inr rfl⟩⟩,
      slot_mod meeting.2, rfl⟩

end Sides

/-- A buffer that has been told of meetings. Slot zero stays, each other slot holds
the greatest of what it held and was told, and the flag says whether any has
changed. -/
structure Told (before : Collisions) (meetings : List (UInt8 × UInt8)) (after : Collisions) :
    Prop where
  zero : after.get 0 = before.get 0
  kept : ∀ slot : Fin 16, before.get slot ≤ after.get slot
  reached : ∀ slot : Fin 16, slot ≠ 0 →
    after.get slot = before.get slot ∨ Tells meetings slot (after.get slot)
  greatest : ∀ slot : Fin 16, slot ≠ 0 →
    ∀ value, Tells meetings slot value → value ≤ after.get slot
  sticky : after.sticky = (before.sticky || decide (after.slots ≠ before.slots))

theorem told_meetAll (buffer : Collisions) (meetings : List (UInt8 × UInt8)) :
    Told buffer meetings (buffer.meetAll meetings) := by
  have raised := raised_raiseAll (meetings.flatMap sides) buffer
  rw [← meetAll_eq_raiseAll] at raised
  refine ⟨?_, raised.kept, ?_, ?_, raised.sticky⟩
  · rcases raised.reached 0 with same | ⟨raise, member, named, _⟩
    · exact same
    · exact absurd named (tells_of_side member).1
  · intro slot _
    rcases raised.reached slot with same | ⟨raise, member, named, value⟩
    · exact Or.inl same
    · have tells := (tells_of_side member).2
      rw [named, value] at tells
      exact Or.inr tells
  · intro slot counts value tells
    by_cases none : value = 0
    · rw [none, UInt8.le_iff_toNat_le]
      exact Nat.zero_le _
    · obtain ⟨raise, member, rfl, rfl⟩ := side_of_tells counts none tells
      exact raised.greatest raise member

/-- **Only what is told of each slot counts.** -/
theorem Told.unique {before first second : Collisions} {meetings others : List (UInt8 × UInt8)}
    (told : Told before meetings first) (retold : Told before others second)
    (alike : ∀ slot value, Tells meetings slot value ↔ Tells others slot value) :
    first = second := by
  -- The greatest of the one is among what the other was told.
  have below {first second : Collisions} {meetings others : List (UInt8 × UInt8)}
      (told : Told before meetings first) (retold : Told before others second)
      (alike : ∀ slot value, Tells meetings slot value ↔ Tells others slot value)
      (slot : Fin 16) (counts : slot ≠ 0) : first.get slot ≤ second.get slot := by
    rcases told.reached slot counts with same | tells
    · rw [same]
      exact retold.kept slot
    · exact retold.greatest slot counts _ ((alike _ _).1 tells)
  have slots (slot : Fin 16) : first.get slot = second.get slot := by
    by_cases counts : slot = 0
    · rw [counts]
      exact told.zero.trans retold.zero.symm
    · exact UInt8.le_antisymm (below told retold alike slot counts)
        (below retold told (fun slot value => (alike slot value).symm) slot counts)
  apply ext_get slots
  rw [told.sticky, retold.sticky, slots_eq_iff.2 slots]

section Retelling

variable {meetings others : List (UInt8 × UInt8)} {slot : Fin 16} {value : UInt8}

theorem tells_of_subset (inside : meetings ⊆ others) (tells : Tells meetings slot value) :
    Tells others slot value := by
  obtain ⟨meeting, among, sides⟩ := tells
  exact ⟨meeting, inside among, sides⟩

/-- Lists that tell the same meetings, some of them from the other side. -/
def Turned (meetings others : List (UInt8 × UInt8)) : Prop :=
  List.Forall₂ (fun told retold => retold = told ∨ retold = told.swap) meetings others

theorem Turned.tells_iff (turned : Turned meetings others) :
    Tells meetings slot value ↔ Tells others slot value := by
  induction turned with
  | nil => exact Iff.rfl
  | cons same _ recurse =>
      simp only [Tells, List.exists_mem_cons_iff] at recurse ⊢
      rw [recurse]
      apply or_congr_left
      rcases same with rfl | rfl
      · exact Iff.rfl
      · exact or_comm

end Retelling

end Collisions

/-- **Recording meetings takes maxima.** Slot zero stays. Every other slot holds the
greatest of what it held, of what its sprite was drawn over and of the sprites that
were drawn over it, and the sticky flag is raised if some slot has changed. So it
makes no difference in which order meetings are recorded, whether any are recorded
again, and from which side each is told. -/
theorem meetings_take_maxima (buffer : Collisions) (meetings : List (UInt8 × UInt8)) :
    let after := buffer.meetAll meetings
    after.get 0 = buffer.get 0
      ∧ (∀ slot : Fin 16, slot ≠ 0 →
        (after.get slot = buffer.get slot ∨ Collisions.Tells meetings slot (after.get slot))
          ∧ buffer.get slot ≤ after.get slot
          ∧ ∀ value, Collisions.Tells meetings slot value → value ≤ after.get slot)
      ∧ after.sticky = (buffer.sticky || decide (after.slots ≠ buffer.slots))
      ∧ (∀ others, meetings.Perm others → buffer.meetAll others = after)
      ∧ (∀ again, again ⊆ meetings → buffer.meetAll (meetings ++ again) = after)
      ∧ (∀ others, Collisions.Turned meetings others → buffer.meetAll others = after) := by
  intro after
  have told : Collisions.Told buffer meetings after := buffer.told_meetAll meetings
  have same (others : List (UInt8 × UInt8))
      (alike : ∀ slot value,
        Collisions.Tells others slot value ↔ Collisions.Tells meetings slot value) :
      buffer.meetAll others = after :=
    (buffer.told_meetAll others).unique told alike
  refine ⟨told.zero, ?_, told.sticky, ?_, ?_, ?_⟩
  · intro slot counts
    exact ⟨told.reached slot counts, told.kept slot, told.greatest slot counts⟩
  · intro others permuted
    apply same
    intro slot value
    exact ⟨Collisions.tells_of_subset permuted.symm.subset,
      Collisions.tells_of_subset permuted.subset⟩
  · intro again repeated
    apply same
    intro slot value
    exact ⟨Collisions.tells_of_subset (List.append_subset.2 ⟨List.Subset.refl _, repeated⟩),
      Collisions.tells_of_subset (List.subset_append_left _ _)⟩
  · intro others turned
    apply same
    intro slot value
    exact turned.tells_iff.symm

/-- Sprite 5 is drawn over 3 and 9, and sprite 2 over 5. In another order, from the
other side and twice over it comes to the same. -/
theorem three_meetings_recorded :
    let meetings : List (UInt8 × UInt8) := [(5, 3), (0x15, 9), (2, 5)]
    let after := Collisions.empty.meetAll meetings
    after.get 5 = 9 ∧ after.get 3 = 5 ∧ after.get 9 = 5 ∧ after.get 2 = 5 ∧ after.sticky = true
      ∧ (2 : UInt8) ≤ after.get 5
      ∧ Collisions.empty.meetAll [(2, 5), (5, 3), (0x15, 9)] = after
      ∧ Collisions.empty.meetAll (meetings ++ [(2, 5)]) = after
      ∧ Collisions.empty.meetAll [(3, 5), (0x15, 9), (5, 2)] = after := by
  intro meetings after
  obtain ⟨_, maxima, _, permuted, repeated, turned⟩ :=
    meetings_take_maxima Collisions.empty meetings
  refine ⟨by decide, by decide, by decide, by decide, by decide, ?_, ?_, ?_, ?_⟩
  · exact (maxima 5 (by decide)).2.2 2 ⟨(2, 5), by decide, Or.inr ⟨rfl, rfl⟩⟩
  · exact permuted _ (by decide)
  · exact repeated _ (by decide)
  · exact turned _ (.cons (Or.inr rfl) (.cons (Or.inl rfl) (.cons (Or.inr rfl) .nil)))

end LynxSuzy
