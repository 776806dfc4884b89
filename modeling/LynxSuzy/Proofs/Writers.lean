import LynxSuzy.Journal

/-!
Contract: the way of lines through the writers of a journal into the files.

Owns: what a file holds and what waits for it; how writers are kept, so that no
line is sent past a writer or written out of turn; and that sending a line adds it
at the end of what a file has received, while a writer's step, the opening of a
file, also in vain, and the closing of one leave that as it is.

Does **not** own: which file a line is for (`Proofs.Routing`).
-/

set_option autoImplicit false

namespace LynxSuzy.Journal

/-! ## Files -/

namespace Shelf

/-- The lines of a file. One that is not there has none. -/
def linesOf (shelf : Shelf) (name : String) : List String :=
  (shelf.lines? name).getD []

theorem lines?_append (shelf : Shelf) (name line other : String) :
    (shelf.append name line).lines? other
      = (shelf.lines? other).map fun lines => if other = name then lines ++ [line] else lines := by
  obtain ⟨files⟩ := shelf
  unfold append lines?
  induction files with
  | nil => rfl
  | cons file files recurse =>
      obtain ⟨own, lines⟩ := file
      by_cases found : other = own
      · subst found
        by_cases named : other = name <;> simp [named]
      · have passed : (other == own) = false := beq_false_of_ne found
        have renamed : (if own = name then (own, lines ++ [line]) else (own, lines)).1 = own := by
          split <;> rfl
        dsimp only
        rw [List.map_cons, List.lookup_cons, List.lookup_cons, renamed, passed]
        exact recurse

theorem lines?_make (shelf : Shelf) (file other : String) :
    (shelf.make file).lines? other
      = if other = file then some (shelf.linesOf file) else shelf.lines? other := by
  unfold make
  split
  · rename_i there
    obtain ⟨lines, found⟩ := Option.isSome_iff_exists.1 there
    by_cases named : other = file
    · subst named
      rw [if_pos rfl, linesOf, found, Option.getD_some]
    · rw [if_neg named]
  · rename_i absent
    have missing : shelf.lines? file = none := by simpa using absent
    unfold lines? at missing ⊢
    rw [List.lookup_append]
    by_cases named : other = file
    · subst named
      simp [linesOf, lines?, missing]
    · simp [named, List.lookup_cons, beq_false_of_ne named]

theorem linesOf_append {shelf : Shelf} {name : String} (there : (shelf.lines? name).isSome)
    (line other : String) :
    (shelf.append name line).linesOf other
      = shelf.linesOf other ++ if other = name then [line] else [] := by
  unfold linesOf
  rw [lines?_append]
  by_cases named : other = name
  · subst named
    obtain ⟨lines, found⟩ := Option.isSome_iff_exists.1 there
    simp [found]
  · simp [named]

/-- All files stay, with their lines. Others may be made. -/
structure Keeps (before after : Shelf) : Prop where
  there : ∀ file, (before.lines? file).isSome → (after.lines? file).isSome
  lines : ∀ file, after.linesOf file = before.linesOf file

theorem Keeps.refl (shelf : Shelf) : shelf.Keeps shelf := ⟨fun _ there => there, fun _ => rfl⟩

theorem keeps_make (shelf : Shelf) (file : String) : shelf.Keeps (shelf.make file) := by
  constructor
  · intro other there
    rw [lines?_make]
    split
    · rfl
    · exact there
  · intro other
    unfold linesOf
    rw [lines?_make]
    by_cases named : other = file
    · subst named
      rw [if_pos rfl]
      rfl
    · rw [if_neg named]

end Shelf

/-! ## Writers -/

def Writer.waitingFor (writer : Writer) (name : String) : List String :=
  if writer.file = name then writer.waiting else []

/-- What waits in writers for a file, in the order in which it was sent. -/
def waitingFor (writers : List Writer) (name : String) : List String :=
  writers.flatMap fun writer => writer.waitingFor name

/-- How writers are kept: they are at work, their files are there, and of those with
the same file none has anything left to write but the last. -/
structure Staffed (writers : List Writer) (shelf : Shelf) : Prop where
  working : ∀ writer ∈ writers, writer.ended = false
  shelved : ∀ writer ∈ writers, (shelf.lines? writer.file).isSome
  inTurn : writers.Pairwise fun earlier later => earlier.file = later.file → earlier.waiting = []

section Writers

variable {shelf : Shelf} {writers earlier later : List Writer} {writer : Writer}

theorem waitingFor_append (earlier later : List Writer) (name : String) :
    waitingFor (earlier ++ later) name = waitingFor earlier name ++ waitingFor later name :=
  List.flatMap_append

theorem waitingFor_cons (writer : Writer) (writers : List Writer) (name : String) :
    waitingFor (writer :: writers) name = writer.waitingFor name ++ waitingFor writers name :=
  List.flatMap_cons

/-- Nothing waits for a writer's file in those before it. -/
theorem Staffed.waitingFor_earlier (staffed : Staffed (earlier ++ writer :: later) shelf) :
    waitingFor earlier writer.file = [] := by
  apply List.flatMap_eq_nil_iff.2
  intro other among
  by_cases same : other.file = writer.file
  · rw [Writer.waitingFor, if_pos same]
    exact (List.pairwise_append.1 staffed.inTurn).2.2 other among writer List.mem_cons_self same
  · exact if_neg same

/-- A writer may give way to another for the same file, if that has nothing to write
while a later one has the same file. -/
theorem Staffed.replace (staffed : Staffed (earlier ++ writer :: later) shelf) {other : Writer}
    {further : Shelf} (sameFile : other.file = writer.file) (working : other.ended = false)
    (kept : ∀ name, (shelf.lines? name).isSome → (further.lines? name).isSome)
    (turn : ∀ next ∈ later, writer.file = next.file → other.waiting = []) :
    Staffed (earlier ++ other :: later) further := by
  obtain ⟨allWorking, allShelved, inTurn⟩ := staffed
  simp only [List.forall_mem_append, List.forall_mem_cons] at allWorking allShelved
  rw [List.pairwise_append, List.pairwise_cons] at inTurn
  obtain ⟨before, ⟨_, after⟩, across⟩ := inTurn
  refine ⟨?_, ?_, ?_⟩
  · simp only [List.forall_mem_append, List.forall_mem_cons]
    exact ⟨allWorking.1, working, allWorking.2.2⟩
  · simp only [List.forall_mem_append, List.forall_mem_cons, sameFile]
    exact ⟨fun one among => kept _ (allShelved.1 one among), kept _ allShelved.2.1,
      fun one among => kept _ (allShelved.2.2 one among)⟩
  · rw [List.pairwise_append, List.pairwise_cons]
    refine ⟨before, ⟨fun next among same => turn next among (sameFile ▸ same), after⟩, ?_⟩
    intro one among next later same
    rcases List.mem_cons.1 later with rfl | later
    · exact across one among writer List.mem_cons_self (same.trans sameFile)
    · exact across one among next (List.mem_cons_of_mem _ later) same

/-- **A line is sent behind all that waits for its file.** -/
theorem Staffed.send (staffed : Staffed (writers ++ [writer]) shelf) (line : String) :
    let sent := { writer with waiting := writer.waiting ++ [line] }
    writer.send line = .ok sent ∧ Staffed (writers ++ [sent]) shelf
      ∧ ∀ name, waitingFor (writers ++ [sent]) name
          = waitingFor (writers ++ [writer]) name ++ if name = writer.file then [line] else [] := by
  intro sent
  have working : writer.ended = false :=
    staffed.working writer (List.mem_append_right _ List.mem_cons_self)
  refine ⟨?_, ?_, ?_⟩
  · rw [Writer.send, if_neg (Bool.eq_false_iff.1 working)]
  · exact staffed.replace rfl working (fun _ there => there)
      (fun next among => absurd among List.not_mem_nil)
  · intro name
    simp only [waitingFor_append, waitingFor_cons, Writer.waitingFor, sent]
    by_cases own : writer.file = name
    · simp [own, waitingFor]
    · simp [own, Ne.symm own, waitingFor]

/-- **A writer's step** takes a line from those that wait for its file and puts it behind
those that the file holds. -/
theorem Staffed.write (staffed : Staffed (earlier ++ writer :: later) shelf) :
    let step := writer.write shelf
    Staffed (earlier ++ step.1 :: later) step.2
      ∧ ∀ name, step.2.linesOf name ++ waitingFor (earlier ++ step.1 :: later) name
          = shelf.linesOf name ++ waitingFor (earlier ++ writer :: later) name := by
  have here : writer ∈ earlier ++ writer :: later :=
    List.mem_append_right _ List.mem_cons_self
  have quiet := staffed.waitingFor_earlier
  obtain ⟨file, waiting, ended⟩ := writer
  cases waiting with
  | nil => exact ⟨staffed, fun _ => rfl⟩
  | cons line rest =>
      have working : ended = false := staffed.working _ here
      have there : (shelf.lines? file).isSome := staffed.shelved _ here
      refine ⟨?_, ?_⟩
      · refine staffed.replace rfl working ?_ ?_
        · intro name found
          rw [Writer.write, Shelf.lines?_append, Option.isSome_map]
          exact found
        · intro next among same
          have done := (List.pairwise_cons.1 (List.pairwise_append.1 staffed.inTurn).2.1).1
          exact absurd (done next among same) (List.cons_ne_nil line rest)
      · intro name
        simp only [Writer.write, Shelf.linesOf_append there, waitingFor_append, waitingFor_cons]
        by_cases own : name = file
        · subst own
          simp [Writer.waitingFor, quiet]
        · simp [Writer.waitingFor, own, Ne.symm own]

theorem Staffed.shelve (staffed : Staffed writers shelf) {after : Shelf}
    (keeps : shelf.Keeps after) : Staffed writers after where
  working := staffed.working
  shelved writer among := keeps.there _ (staffed.shelved writer among)
  inTurn := staffed.inTurn

/-- A writer is started for a file that nothing waits for any more. -/
theorem Staffed.start (staffed : Staffed writers shelf) {file : String}
    (there : (shelf.lines? file).isSome) (written : waitingFor writers file = []) :
    Staffed (writers ++ [.start file]) shelf := by
  refine ⟨?_, ?_, ?_⟩
  · rw [List.forall_mem_append, List.forall_mem_singleton]
    exact ⟨staffed.working, rfl⟩
  · rw [List.forall_mem_append, List.forall_mem_singleton]
    exact ⟨staffed.shelved, there⟩
  · rw [List.pairwise_append]
    refine ⟨staffed.inTurn, List.pairwise_singleton _ _, ?_⟩
    intro writer among started isStarted same
    obtain rfl := List.mem_singleton.1 isStarted
    have nothing : writer.waitingFor file = [] := List.flatMap_eq_nil_iff.1 written writer among
    rwa [Writer.waitingFor, if_pos (show writer.file = file from same)] at nothing

end Writers

/-! ## Where lines are -/

inductive Place where
  | standardError
  | file (name : String)
  deriving DecidableEq

def destination (journal : Journal) : Place :=
  match journal.sink with
  | none => .standardError
  | some writer => .file writer.file

def contents (journal : Journal) : Place → List String
  | .standardError => journal.standardError
  | .file name => journal.shelf.linesOf name

def underway (journal : Journal) : Place → List String
  | .standardError => []
  | .file name => waitingFor journal.writers name

def sent (journal : Journal) (place : Place) : List String :=
  journal.contents place ++ journal.underway place

/-- What holds of a journal at any time: the two facts that say where a line goes agree,
and its writers are kept as they should be. -/
structure WellKept (journal : Journal) : Prop where
  agree : journal.toFile = journal.sink.isSome
  staffed : Staffed journal.writers journal.shelf

section Journals

variable {journal : Journal}

/-- **An emitted line is sent to where lines go**, behind all that was sent there. -/
theorem WellKept.emit (kept : journal.WellKept) (line : String) :
    (journal.emit line).WellKept ∧ (journal.emit line).destination = journal.destination
      ∧ ∀ place, (journal.emit line).sent place
          = journal.sent place ++ if place = journal.destination then [line] else [] := by
  obtain ⟨agree, staffed⟩ := kept
  obtain ⟨thresholds, limiter, sink, toFile, retired, shelf, standardError⟩ := journal
  cases sink with
  | none =>
      obtain rfl : toFile = false := agree
      refine ⟨⟨rfl, staffed⟩, rfl, ?_⟩
      intro place
      cases place with
      | standardError => simp [Journal.emit, print, sent, contents, underway, destination]
      | file name => simp [Journal.emit, print, sent, contents, underway, destination, writers]
  | some writer =>
      obtain rfl : toFile = true := agree
      obtain ⟨given, still, waits⟩ := staffed.send line
      have emitted : (⟨thresholds, limiter, some writer, true, retired, shelf, standardError⟩
          : Journal).emit line = ⟨thresholds, limiter,
            some { writer with waiting := writer.waiting ++ [line] }, true, retired, shelf,
            standardError⟩ := by
        simp only [Journal.emit, given]
      rw [emitted]
      refine ⟨⟨rfl, still⟩, rfl, ?_⟩
      intro place
      cases place with
      | standardError => simp [sent, contents, underway, destination]
      | file name =>
          have more := waits name
          simp only [sent, contents, underway, destination, writers, Option.toList_some,
            Place.file.injEq, List.append_assoc]
          rw [more]

/-- A writer stands somewhere among all writers, where another can be put. -/
theorem exists_writers_eq {pen : Pen} {writer : Writer} (held : journal.writer? pen = some writer) :
    ∃ earlier later, journal.writers = earlier ++ writer :: later
      ∧ ∀ other, (journal.withWriter pen other).writers = earlier ++ other :: later := by
  cases pen with
  | current =>
      have sink : journal.sink = some writer := held
      refine ⟨journal.retired, [], ?_, fun other => rfl⟩
      rw [writers, sink]
      rfl
  | retired place =>
      obtain ⟨inside, found⟩ := List.getElem?_eq_some_iff.1 held
      refine ⟨journal.retired.take place, journal.retired.drop (place + 1) ++ journal.sink.toList,
        ?_, ?_⟩
      · rw [writers, ← List.cons_append, ← List.append_assoc, ← found, List.getElem_cons_drop,
          List.take_append_drop]
      · intro other
        rw [writers, withWriter, List.set_eq_take_append_cons_drop, if_pos inside,
          List.append_assoc, List.cons_append]

/-- Where lines go, and whether they go to a file, is left as it is by a writer that has
the same file as the one whose place it takes. -/
theorem withWriter_keeps {pen : Pen} {writer other : Writer}
    (held : journal.writer? pen = some writer) (sameFile : other.file = writer.file) :
    (journal.withWriter pen other).toFile = journal.toFile
      ∧ (journal.withWriter pen other).sink.isSome = journal.sink.isSome
      ∧ (journal.withWriter pen other).destination = journal.destination
      ∧ (journal.withWriter pen other).standardError = journal.standardError := by
  cases pen with
  | current =>
      have sink : journal.sink = some writer := held
      simp only [destination, withWriter, sink, sameFile, Option.isSome_some, and_self]
  | retired place => exact ⟨rfl, rfl, rfl, rfl⟩

theorem file_write (writer : Writer) (shelf : Shelf) :
    (writer.write shelf).1.file = writer.file := by
  unfold Writer.write
  split <;> rfl

/-- **A writer's step leaves alone what has been sent to each place.** -/
theorem WellKept.write (kept : journal.WellKept) (pen : Pen) :
    (journal.step Writer.write pen).WellKept
      ∧ (journal.step Writer.write pen).destination = journal.destination
      ∧ ∀ place, (journal.step Writer.write pen).sent place = journal.sent place := by
  unfold step
  split
  · exact ⟨kept, rfl, fun _ => rfl⟩
  · rename_i writer held
    obtain ⟨toFile, sink, destination, standardError⟩ :=
      withWriter_keeps held (file_write writer journal.shelf)
    obtain ⟨earlier, later, standing, replaced⟩ := exists_writers_eq held
    have staffed := kept.staffed
    rw [standing] at staffed
    obtain ⟨still, same⟩ := staffed.write
    refine ⟨⟨?_, ?_⟩, destination, ?_⟩
    · exact toFile.trans (kept.agree.trans sink.symm)
    · change Staffed (journal.withWriter pen (writer.write journal.shelf).1).writers _
      rw [replaced]
      exact still
    · intro place
      cases place with
      | standardError => exact congrArg (· ++ []) standardError
      | file name =>
          change _ ++ waitingFor (journal.withWriter pen (writer.write journal.shelf).1).writers name
            = _ ++ waitingFor journal.writers name
          rw [replaced, standing]
          exact same name

theorem WellKept.shelve (kept : journal.WellKept) {shelf : Shelf}
    (keeps : journal.shelf.Keeps shelf) :
    let shelved := { journal with shelf := shelf }
    shelved.WellKept ∧ shelved.destination = journal.destination
      ∧ (∀ place, shelved.contents place = journal.contents place)
      ∧ ∀ place, shelved.sent place = journal.sent place := by
  intro shelved
  have contents (place : Place) : shelved.contents place = journal.contents place := by
    cases place with
    | standardError => rfl
    | file name => exact keeps.lines name
  exact ⟨⟨kept.agree, kept.staffed.shelve keeps⟩, rfl, contents,
    fun place => congrArg (· ++ journal.underway place) (contents place)⟩

/-- **A file that nothing waits for** can be turned to: lines go there then. -/
theorem WellKept.turnTo (kept : journal.WellKept) {file : String}
    (written : journal.underway (.file file) = []) :
    (journal.turnTo file).WellKept ∧ (journal.turnTo file).destination = .file file
      ∧ ∀ place, (journal.turnTo file).sent place = journal.sent place := by
  have keeps := journal.shelf.keeps_make file
  have there : ((journal.shelf.make file).lines? file).isSome := by
    rw [Shelf.lines?_make, if_pos rfl]
    rfl
  refine ⟨⟨rfl, (kept.staffed.shelve keeps).start there written⟩, rfl, ?_⟩
  intro place
  cases place with
  | standardError => rfl
  | file other =>
      change (journal.shelf.make file).linesOf other
        ++ waitingFor (journal.writers ++ [.start file]) other = _
      have nothing : waitingFor [.start file] other = [] := by
        simp [waitingFor, Writer.waitingFor, Writer.start]
      rw [keeps.lines, waitingFor_append, nothing, List.append_nil]
      rfl

/-- A file is turned to, or nothing changes but that there may be one more without lines. -/
theorem openFile_cases (journal : Journal) (system : System) (path : String) :
    (∃ file, system path = .ready file
        ∧ journal.openFile system path = (none, journal.turnTo file))
      ∨ ∃ error shelf, journal.shelf.Keeps shelf
        ∧ journal.openFile system path = (some error, { journal with shelf := shelf }) := by
  unfold Journal.openFile
  cases answered : system path with
  | ready file => exact .inl ⟨file, rfl, rfl⟩
  | unattended file error => exact .inr ⟨error, _, journal.shelf.keeps_make file, rfl⟩
  | refused error => exact .inr ⟨error, _, .refl journal.shelf, rfl⟩

theorem WellKept.closeFile (kept : journal.WellKept) :
    journal.closeFile.WellKept ∧ journal.closeFile.destination = .standardError
      ∧ ∀ place, journal.closeFile.sent place = journal.sent place := by
  have writers : journal.closeFile.writers = journal.writers := List.append_nil _
  refine ⟨⟨rfl, ?_⟩, rfl, ?_⟩
  · rw [writers]
    exact kept.staffed
  · intro place
    cases place with
    | standardError => rfl
    | file name => rw [sent, underway, writers]; rfl

/-! ## Writing all that waits -/

end Journals

end LynxSuzy.Journal
