import LynxSuzy.Console.State
import LynxSuzy.Proofs.Records

/-!
Contract: which documents are restored, and what becomes of the others.

Owns: the checks that a document goes through, in their order; that a document
is refused for the first check it fails; and that a refusal leaves the console
as it was, although restoring changes it in place.

Does **not** own: what a written document is restored to (`Proofs.Saving`).
-/

set_option autoImplicit false

namespace LynxSuzy

/-! ## Checks in order -/

structure Check where
  holds : Prop
  error : RestoreError

/-- The error is that of the first check which fails. -/
def FirstFailing (checks : List Check) (error : RestoreError) : Prop :=
  ∃ earlier check later, checks = earlier ++ check :: later
    ∧ (∀ passed ∈ earlier, passed.holds) ∧ ¬check.holds ∧ error = check.error

/-- An answer as the checks give it: a value if all of them hold, and otherwise
the error of the first that does not. -/
def Judged {Value : Type} (checks : List Check) : Except RestoreError Value → Prop
  | .ok _ => ∀ check ∈ checks, check.holds
  | .error error => FirstFailing checks error

section Judging

variable {Value Result : Type} {checks first second : List Check}

theorem FirstFailing.not_all {error : RestoreError} (failing : FirstFailing checks error) :
    ¬∀ check ∈ checks, check.holds := by
  obtain ⟨earlier, check, later, rfl, _, fails, _⟩ := failing
  intro all
  exact fails (all check (List.mem_append_right _ List.mem_cons_self))

theorem FirstFailing.head {check : Check} (fails : ¬check.holds) (later : List Check) :
    FirstFailing (check :: later) check.error :=
  ⟨[], check, later, rfl, List.forall_mem_nil _, fails, rfl⟩

theorem judged_single {check : Check} {answer : Except RestoreError Value}
    (passes : check.holds → ∃ value, answer = .ok value)
    (fails : ¬check.holds → answer = .error check.error) : Judged [check] answer := by
  by_cases holds : check.holds
  · obtain ⟨value, rfl⟩ := passes holds
    intro other mem
    rw [List.mem_singleton.1 mem]
    exact holds
  · rw [fails holds]
    exact .head holds []

theorem Judged.bind {answer : Except RestoreError Value}
    {next : Value → Except RestoreError Result} (judged : Judged first answer)
    (continues : ∀ value, answer = .ok value → Judged second (next value)) :
    Judged (first ++ second) (answer >>= next) := by
  cases answer with
  | error error =>
      obtain ⟨earlier, check, later, split, passed, fails, reported⟩ := judged
      refine ⟨earlier, check, later ++ second, ?_, passed, fails, reported⟩
      rw [split, List.append_assoc, List.cons_append]
  | ok value =>
      have rest := continues value rfl
      show Judged (first ++ second) (next value)
      cases result : next value with
      | ok outcome =>
          rw [result] at rest
          exact List.forall_mem_append.2 ⟨judged, rest⟩
      | error error =>
          rw [result] at rest
          obtain ⟨earlier, check, later, split, passed, fails, reported⟩ := rest
          refine ⟨first ++ earlier, check, later, ?_, ?_, fails, reported⟩
          · rw [split, List.append_assoc]
          · exact List.forall_mem_append.2 ⟨judged, passed⟩

theorem Judged.bind_pure {answer : Except RestoreError Value} {result : Value → Result}
    (judged : Judged checks answer) :
    Judged checks (answer >>= fun value => pure (result value)) := by
  cases answer with
  | ok value => exact judged
  | error error => exact judged

end Judging

/-! ## The checks of a document -/

namespace Json

/-- The part of a document, or null where there is none. -/
def content (document : Json) (which : Section) : Json :=
  (document.get? which.name).getD .null

def IsByte (document : Json) : Prop :=
  ∃ value : Nat, value < 256 ∧ document = .integer value

def headingChecks (document : Json) (name expected : String) : List Check :=
  [⟨document.get? "version" = some (.integer 1), .unsupportedVersion document.version⟩,
    ⟨document.get? name = some (.string expected), .wrongSystem (document.label name)⟩]

def partCheck (document : Json) (which : Section) : Check :=
  ⟨document.get? which.name ≠ none, .missing which⟩

def memoryChecks (document : Json) : List Check :=
  [⟨∃ elements, document = .array elements ∧ ∀ element ∈ elements, element.IsByte, .malformed⟩,
    ⟨(document.elements?.getD []).length = 65536,
      .invalidRamSize (document.elements?.getD []).length⟩]

def chipChecks (document : Json) : List Check :=
  document.headingChecks "chip" "suzy" ++
    [document.partCheck .chipState,
      ⟨∃ registers, Registers.ofJson? (document.content .chipState) = some registers, .malformed⟩]

/-- All checks of a saved state, in the order in which they are made. -/
def checks (document : Json) : List Check :=
  document.headingChecks "system" "lynx" ++
    document.partCheck .ram :: ((document.content .ram).memoryChecks ++
      document.partCheck .chip :: (document.content .chip).chipChecks)

def DescribesMemory (document : Json) : Prop :=
  ∃ elements, document = .array elements ∧ elements.length = 65536
    ∧ ∀ element ∈ elements, element.IsByte

structure DescribesChip (document : Json) : Prop where
  version : document.get? "version" = some (.integer 1)
  chip : document.get? "chip" = some (.string "suzy")
  state : ∃ state, document.get? "state" = some state
    ∧ ∃ registers, Registers.ofJson? state = some registers

structure DescribesConsole (document : Json) : Prop where
  version : document.get? "version" = some (.integer 1)
  system : document.get? "system" = some (.string "lynx")
  ram : ∃ ram, document.get? "ram" = some ram ∧ ram.DescribesMemory
  suzy : ∃ suzy, document.get? "suzy" = some suzy ∧ suzy.DescribesChip

section Describing

variable {document : Json}

theorem exists_part_iff (document : Json) (which : Section) (property : Json → Prop) :
    (∃ found, document.get? which.name = some found ∧ property found)
      ↔ (document.partCheck which).holds ∧ property (document.content which) := by
  unfold partCheck content
  cases document.get? which.name with
  | none => simp
  | some found => simp

theorem describesMemory_iff :
    document.DescribesMemory ↔ ∀ check ∈ document.memoryChecks, check.holds := by
  simp only [memoryChecks, List.forall_mem_cons, List.not_mem_nil, false_implies,
    implies_true, and_true]
  constructor
  · rintro ⟨elements, rfl, length, bytes⟩
    exact ⟨⟨elements, rfl, bytes⟩, length⟩
  · rintro ⟨⟨elements, rfl, bytes⟩, length⟩
    exact ⟨elements, rfl, length, bytes⟩

theorem describesChip_iff :
    document.DescribesChip ↔ ∀ check ∈ document.chipChecks, check.holds := by
  have state := document.exists_part_iff .chipState
    fun state => ∃ registers, Registers.ofJson? state = some registers
  simp only [chipChecks, headingChecks, List.cons_append, List.nil_append,
    List.forall_mem_cons, List.not_mem_nil, false_implies, implies_true, and_true, ← state]
  exact ⟨fun ⟨version, chip, state⟩ => ⟨version, chip, state⟩,
    fun ⟨version, chip, state⟩ => ⟨version, chip, state⟩⟩

theorem describesConsole_iff :
    document.DescribesConsole ↔ ∀ check ∈ document.checks, check.holds := by
  have ram := document.exists_part_iff .ram DescribesMemory
  have suzy := document.exists_part_iff .chip DescribesChip
  simp only [checks, headingChecks, List.cons_append, List.nil_append, List.forall_mem_cons,
    List.forall_mem_append, ← describesMemory_iff, ← describesChip_iff, ← suzy]
  constructor
  · intro describes
    obtain ⟨present, memory⟩ := ram.1 describes.ram
    exact ⟨describes.version, describes.system, present, memory, describes.suzy⟩
  · rintro ⟨version, system, present, memory, chip⟩
    exact ⟨version, system, ram.2 ⟨present, memory⟩, chip⟩

end Describing

/-! ## The judgement of each section -/

section Judgements

variable {document : Json} {name expected : String}

theorem version_eq_one : document.version = 1 ↔ document.get? "version" = some (.integer 1) := by
  unfold version
  cases get : document.get? "version" with
  | none => simp
  | some found =>
      cases read : found.natBelow? UInt64.size with
      | none =>
          have other : found ≠ .integer 1 := by
            rintro rfl
            contradiction
          simp [read, other]
      | some value =>
          obtain ⟨rfl, _⟩ := natBelow?_eq_some.1 read
          rw [Option.bind_some, read, Option.getD_some, Option.some.injEq, integer.injEq]
          omega

theorem label_eq (nonempty : expected ≠ "") :
    document.label name = expected ↔ document.get? name = some (.string expected) := by
  unfold label
  cases document.get? name with
  | none => simp [nonempty.symm]
  | some found =>
      cases found with
      | string value => simp [string?]
      | _ => simp [string?, nonempty.symm]

theorem judged_checkHeading (nonempty : expected ≠ "") :
    Judged (document.headingChecks name expected) (document.checkHeading name expected) := by
  unfold checkHeading
  by_cases version : document.version = 1
  · by_cases label : document.label name = expected
    · simp only [version, label, ne_eq, not_true, if_false]
      have both : ∀ check ∈ document.headingChecks name expected, check.holds := by
        simp [headingChecks, version_eq_one.1 version, (label_eq nonempty).1 label]
      exact both
    · simp only [version, label, ne_eq, not_true, not_false_iff, if_false, if_true]
      exact ⟨[_], _, [], rfl, by simpa using version_eq_one.1 version,
        mt (label_eq nonempty).2 label, rfl⟩
  · simp only [version, ne_eq, not_false_iff, if_true]
    exact FirstFailing.head (mt version_eq_one.2 version) _

theorem judged_part {which : Section} {checks : Json → List Check} {Result : Type}
    {next : Json → Except RestoreError Result}
    (continues : ∀ found, Judged (checks found) (next found)) :
    Judged (document.partCheck which :: checks (document.content which))
      (document.part which >>= next) := by
  unfold part content
  cases get : document.get? which.name with
  | none =>
      have absent : ¬(document.partCheck which).holds := fun present => present get
      exact FirstFailing.head absent _
  | some found =>
      have present : Judged [document.partCheck which] (.ok found) := by
        simp [Judged, partCheck, get]
      exact Judged.bind present fun _ same => Except.ok.inj same ▸ continues found

theorem readable_eq_ok {Value : Type} {answer : Option Value} {value : Value} :
    readable answer = .ok value ↔ answer = some value := by
  cases answer with
  | none => simp [readable]
  | some found => simp [readable]

theorem judged_readable {Value : Type} {answer : Option Value} {condition : Prop}
    (exact : condition ↔ ∃ value, answer = some value) :
    Judged [⟨condition, .malformed⟩] (readable answer) := by
  apply judged_single
  · intro holds
    obtain ⟨value, rfl⟩ := exact.1 holds
    exact ⟨value, rfl⟩
  · intro fails
    cases answer with
    | none => rfl
    | some value => exact absurd (exact.2 ⟨value, rfl⟩) fails

end Judgements

end Json

open Json

theorem Json.isByte_iff {document : Json} :
    document.IsByte ↔ ∃ byte, document = ofByte byte := by
  constructor
  · rintro ⟨value, below, rfl⟩
    refine ⟨UInt8.ofNat value, ?_⟩
    rw [ofByte, UInt8.toNat_ofNat_of_lt' below]
  · rintro ⟨byte, rfl⟩
    exact ⟨byte.toNat, byte.toNat_lt_size, rfl⟩

theorem Json.exists_bytes_iff {document : Json} :
    (∃ elements, document = .array elements ∧ ∀ element ∈ elements, element.IsByte)
      ↔ ∃ bytes, document.bytes? = some bytes := by
  constructor
  · rintro ⟨elements, rfl, bytes⟩
    have written : ∃ values : List UInt8, elements = values.map ofByte := by
      induction elements with
      | nil => exact ⟨[], rfl⟩
      | cons element elements ih =>
          obtain ⟨byte, rfl⟩ := isByte_iff.1 (bytes element List.mem_cons_self)
          obtain ⟨rest, rfl⟩ := ih fun other mem => bytes other (List.mem_cons_of_mem _ mem)
          exact ⟨byte :: rest, rfl⟩
    obtain ⟨values, rfl⟩ := written
    exact ⟨values.toArray, bytes?_ofBytes values⟩
  · rintro ⟨bytes, read⟩
    refine ⟨_, bytes?_eq_some.1 read, ?_⟩
    intro element mem
    obtain ⟨byte, _, rfl⟩ := List.mem_map.1 mem
    exact isByte_iff.2 ⟨byte, rfl⟩

theorem Memory.judged_restore (document : Json) :
    Judged document.memoryChecks (Memory.restore document) := by
  refine (judged_readable exists_bytes_iff).bind fun bytes read => ?_
  have size : (document.elements?.getD []).length = bytes.size := by
    rw [bytes?_eq_some.1 (readable_eq_ok.1 read)]
    simp [ofBytes, elements?]
  rw [size]
  unfold Memory.ofArray?
  by_cases complete : bytes.size = UInt16.size
  · rw [dif_pos complete]
    exact List.forall_mem_singleton.2 complete
  · rw [dif_neg complete]
    exact FirstFailing.head complete []

theorem Chip.judged_savedRegisters (document : Json) :
    Judged document.chipChecks (Chip.savedRegisters document) := by
  refine (judged_checkHeading (by decide)).bind fun _ _ => ?_
  exact @judged_part _ _
    (fun state => [⟨∃ registers, Registers.ofJson? state = some registers, .malformed⟩]) _ _
    fun state => judged_readable Iff.rfl

/-! ## Restoring in place -/

namespace InPlace

variable {Fault State Value Info : Type}

/-- The end of a change that is made as a whole, once everything that it needs
could be read. -/
def commit (change : State → Info → State) (state : State) :
    Except Fault Info → Except Fault Unit × State
  | .ok info => (.ok (), change state info)
  | .error fault => (.error fault, state)

theorem commit_read {change : State → Info → State} {state : State}
    {answer : Except Fault Value} {next : Value → InPlace Fault State Unit}
    {read : Value → Except Fault Info}
    (rest : ∀ value, (next value).run.run state = commit change state (read value)) :
    (liftM answer >>= next : InPlace Fault State Unit).run.run state
      = commit change state (answer >>= read) := by
  cases answer with
  | ok value => exact rest value
  | error fault => rfl

end InPlace

structure Snapshot where
  memory : Memory
  registers : Registers

/-- Everything that is read of a document, or the first thing that is wrong with
it. -/
def Snapshot.ofJson (document : Json) : Except RestoreError Snapshot := do
  document.checkHeading "system" "lynx"
  let memory ← Memory.restore (← document.part .ram)
  return ⟨memory, ← Chip.savedRegisters (← document.part .chip)⟩

namespace Console

def resumed (console : Console) (snapshot : Snapshot) : Console where
  board :=
    { console.board with
      chip := ⟨snapshot.registers, console.board.chip.config, none⟩
      memory := snapshot.memory
      charges := [] }
  palette := console.palette

/-- Restoring reads all of the document before it changes anything. -/
theorem run_restoreInPlace (document : Json) (console : Console) :
    (restoreInPlace document).run.run console
      = InPlace.commit resumed console (Snapshot.ofJson document) := by
  unfold restoreInPlace Snapshot.ofJson
  refine InPlace.commit_read fun _ => InPlace.commit_read fun ram =>
    InPlace.commit_read fun memory => InPlace.commit_read fun chip => ?_
  -- The chip is the first that is changed; its part has been read by then.
  unfold onChip Chip.restoreInPlace
  cases Chip.savedRegisters chip with
  | ok registers => rfl
  | error error => rfl

theorem restore_eq (document : Json) (console : Console) :
    console.restore document = (Snapshot.ofJson document).map console.resumed := by
  unfold restore InPlace.outcome
  rw [run_restoreInPlace]
  cases Snapshot.ofJson document with
  | ok snapshot => rfl
  | error error => rfl

end Console

theorem Snapshot.judged_ofJson (document : Json) :
    Judged document.checks (Snapshot.ofJson document) := by
  refine (judged_checkHeading (by decide)).bind fun _ _ => ?_
  apply @judged_part _ .ram fun ram => ram.memoryChecks ++
    document.partCheck .chip :: (document.content .chip).chipChecks
  intro ram
  refine (Memory.judged_restore ram).bind fun memory _ => ?_
  apply judged_part
  intro chip
  exact (Chip.judged_savedRegisters chip).bind_pure

/-- **A document is restored exactly if it describes a console. Any other is
refused for the first check that it fails, and has changed nothing by then.** A
host that only knows documents gets the same change and the same refusals. -/
theorem Console.restored_or_untouched (document : Json) (console : Console) :
    (match (restoreInPlace document).run.run console with
      | (.ok _, _) => document.DescribesConsole
      | (.error error, after) =>
          ¬document.DescribesConsole ∧ FirstFailing document.checks error ∧ after = console)
      ∧ (loadInPlace document).run.run console
        = (((restoreInPlace document).run.run console).1.mapError DocumentFault.ofError,
            ((restoreInPlace document).run.run console).2) := by
  refine ⟨?_, rfl⟩
  have judged := Snapshot.judged_ofJson document
  rw [run_restoreInPlace]
  cases read : Snapshot.ofJson document with
  | ok snapshot =>
      rw [read] at judged
      exact describesConsole_iff.2 judged
  | error error =>
      rw [read] at judged
      exact ⟨fun describes => judged.not_all (describesConsole_iff.1 describes), judged, rfl⟩

end LynxSuzy
