import LynxSuzy.Proofs.Histories
import LynxSuzy.Proofs.Images

/-!
Contract: what becomes of a console when media are put into its slot or taken out.

Owns: a host's attempts as changes in place, step by step in their order; the reason
for which an attempt is refused, if it is; and that an attempt which is refused has
changed nothing, so that it ends as it does when a console is only replaced on
success.

Does **not** own: which images fit (`Proofs.Images`).
-/

set_option autoImplicit false

namespace LynxSuzy.Console

inductive Attempt where
  /-- Put a cartridge into the slot without a reset. -/
  | insert (image : Array UInt8)
  /-- Put a cartridge into a slot and reset. -/
  | mount (slot : String) (image : Array UInt8)
  | unmount (slot : String)

/-- Tell of a cartridge, then put it into the slot. -/
def insertInPlace (image : Array UInt8) : InPlace MountError Console Unit := do
  let cartridge ← (Cartridge.ofImage image).mapError MountError.cartridge
  modify fun console =>
    console.withBoard (console.board.note [.cartridgeMounted (cartridge.pageSize 0)])
  modify fun console => console.withBoard { console.board with socket := some cartridge }

def checkSlot (slot : String) : Except MountError Unit :=
  if slot = slotId then .ok () else .error (.invalidMountPoint slot)

namespace Attempt

/-- The attempt as a change of the console that can fail on its way. -/
def inPlace : Attempt → InPlace MountError Console Unit
  | .insert image => insertInPlace image
  | .mount slot image => do
      checkSlot slot
      insertInPlace image
      modify reset
  | .unmount slot => do
      checkSlot slot
      modify fun console => console.withBoard { console.board with socket := none }

def answer (console : Console) : Attempt → Except MountError Console
  | .insert image => console.insertCartridge image
  | .mount slot image => console.mount slot image
  | .unmount slot => console.unmount slot

/-- Why an attempt is refused. A slot that there is not counts before an image. -/
inductive Refused : Attempt → MountError → Prop where
  | insert {image : Array UInt8} {error : CartridgeError}
      (misfit : Cartridge.Refused image error) : Refused (.insert image) (.cartridge error)
  | mount {image : Array UInt8} {error : CartridgeError}
      (misfit : Cartridge.Refused image error) : Refused (.mount slotId image) (.cartridge error)
  | mountUnknown {slot : String} (unknown : slot ≠ slotId) (image : Array UInt8) :
      Refused (.mount slot image) (.invalidMountPoint slot)
  | unmountUnknown {slot : String} (unknown : slot ≠ slotId) :
      Refused (.unmount slot) (.invalidMountPoint slot)

/-! ## Attempts in place -/

theorem run_insertInPlace (image : Array UInt8) (console : Console) :
    (insertInPlace image).run.run console
      = InPlace.commit (fun _ after => after) console (console.insertCartridge image) := by
  unfold insertInPlace insertCartridge
  cases Cartridge.ofImage image with
  | ok cartridge => rfl
  | error error => rfl

/-- **An attempt changes the console as a whole or not at all**, and its answer is that
of replacing the console on success. -/
theorem run_inPlace (attempt : Attempt) (console : Console) :
    attempt.inPlace.run.run console
      = InPlace.commit (fun _ after => after) console (attempt.answer console) := by
  cases attempt with
  | insert image => exact run_insertInPlace image console
  | mount slot image =>
      by_cases known : slot = slotId
      · simp only [inPlace, answer, Console.mount, checkSlot, if_pos known]
        unfold insertInPlace insertCartridge
        cases Cartridge.ofImage image with
        | ok cartridge => rfl
        | error error => rfl
      · simp only [inPlace, answer, Console.mount, checkSlot, if_neg known]
        rfl
  | unmount slot =>
      by_cases known : slot = slotId
      · simp only [inPlace, answer, Console.unmount, checkSlot, if_pos known]
        rfl
      · simp only [inPlace, answer, Console.unmount, checkSlot, if_neg known]
        rfl

/-! ## Refusals -/

theorem insertCartridge_eq_error_iff {console : Console} {image : Array UInt8}
    {fault : MountError} :
    console.insertCartridge image = .error fault
      ↔ ∃ error, Cartridge.Refused image error ∧ fault = .cartridge error := by
  unfold insertCartridge
  cases made : Cartridge.ofImage image with
  | ok cartridge =>
      constructor
      · intro refusal
        cases refusal
      · rintro ⟨error, misfit, _⟩
        rw [Cartridge.ofImage_of_refused misfit] at made
        cases made
  | error error =>
      constructor
      · intro refusal
        exact ⟨error, Cartridge.ofImage_eq_error_iff.1 made, (Except.error.inj refusal).symm⟩
      · rintro ⟨other, misfit, rfl⟩
        rw [Cartridge.ofImage_of_refused misfit] at made
        rw [Except.error.inj made]

theorem mount_slotId_eq_error_iff {console : Console} {image : Array UInt8}
    {fault : MountError} :
    console.mount slotId image = .error fault ↔ console.insertCartridge image = .error fault := by
  rw [Console.mount, if_pos rfl]
  cases console.insertCartridge image with
  | ok inserted => exact ⟨nofun, nofun⟩
  | error error => exact Iff.rfl

theorem answer_eq_error_iff {attempt : Attempt} {console : Console} {fault : MountError} :
    attempt.answer console = .error fault ↔ attempt.Refused fault := by
  constructor
  · intro refusal
    cases attempt with
    | insert image =>
        obtain ⟨error, misfit, rfl⟩ := insertCartridge_eq_error_iff.1 refusal
        exact .insert misfit
    | mount slot image =>
        by_cases known : slot = slotId
        · subst known
          obtain ⟨error, misfit, rfl⟩ :=
            insertCartridge_eq_error_iff.1 (mount_slotId_eq_error_iff.1 refusal)
          exact .mount misfit
        · rw [answer, Console.mount, if_neg known] at refusal
          exact Except.error.inj refusal ▸ .mountUnknown known image
    | unmount slot =>
        by_cases known : slot = slotId
        · rw [answer, Console.unmount, if_pos known] at refusal
          cases refusal
        · rw [answer, Console.unmount, if_neg known] at refusal
          exact Except.error.inj refusal ▸ .unmountUnknown known
  · intro refused
    cases refused with
    | insert misfit => exact insertCartridge_eq_error_iff.2 ⟨_, misfit, rfl⟩
    | mount misfit =>
        exact mount_slotId_eq_error_iff.2 (insertCartridge_eq_error_iff.2 ⟨_, misfit, rfl⟩)
    | mountUnknown unknown image => exact if_neg unknown
    | unmountUnknown unknown => exact if_neg unknown

end Attempt

/-- **Images are accepted exactly, and refusals change nothing.** A cartridge is made of
an image exactly if the image fits, and any other image is refused for the first
condition that it fails. An attempt to put media into the slot or to take them out
fails exactly for a slot that there is not or an image that is refused, and the console
is then what it was: memory, chip, palette, what the processor owes, and the cartridge
that was in the slot, wherever it was being read. -/
theorem refusals_change_nothing (image : Array UInt8) (attempt : Attempt) (console : Console) :
    ((∃ cartridge, Cartridge.ofImage image = .ok cartridge) ↔ Cartridge.Fits image)
      ∧ (∀ error, Cartridge.ofImage image = .error error ↔ Cartridge.Refused image error)
      ∧ match attempt.inPlace.run.run console with
        | (.ok _, after) => attempt.answer console = .ok after ∧ ∀ fault, ¬attempt.Refused fault
        | (.error fault, after) =>
            attempt.answer console = .error fault ∧ attempt.Refused fault ∧ after = console := by
  refine ⟨?_, fun error => Cartridge.ofImage_eq_error_iff, ?_⟩
  · constructor
    · rintro ⟨cartridge, accepted⟩
      exact (Cartridge.ofImage_eq_ok_iff.1 accepted).1
    · intro fits
      exact ⟨_, Cartridge.ofImage_of_fits fits⟩
  · rw [attempt.run_inPlace console]
    cases answered : attempt.answer console with
    | ok after =>
        refine ⟨rfl, fun fault refused => ?_⟩
        rw [Attempt.answer_eq_error_iff.2 refused] at answered
        cases answered
    | error fault => exact ⟨rfl, Attempt.answer_eq_error_iff.1 answered, rfl⟩

end LynxSuzy.Console
