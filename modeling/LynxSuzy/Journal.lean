import LynxSuzy.Journal.RateLimiter
import LynxSuzy.Journal.Thresholds
import LynxSuzy.Journal.Writer

/-!
Contract: the console's log.

Owns: the way of a message from its category and level to the one place where
its line ends up: the file opened last, or standard error while none is open.

Lines for a file go to a writer, which is started when the file is opened and has
them in the file some time later. A writer that is replaced, or whose file is
closed, retires: it is sent no more lines, but writes those it was sent. `record`
leaves all writers where they are; `settle` lets them write all that waits.

A message that is not kept is never written out in words, which is what the
answer of `record` tells. Where messages were refused for coming too fast, a line
that says how many goes before the next one.
-/

set_option autoImplicit false

namespace LynxSuzy

/-- The levels in force, the limit on the rate and where lines go. -/
structure Journal where
  thresholds : Journal.Thresholds
  limiter : Journal.RateLimiter
  /-- The writer that lines can be sent to, if there is one. -/
  sink : Option Journal.Writer
  /-- Whether lines are to go to a file. -/
  toFile : Bool
  /-- Writers that are sent no more lines, in the order in which they retired. -/
  retired : List Journal.Writer
  shelf : Journal.Shelf
  /-- What was written to standard error, entry by entry. A message with line
  feeds shows as several lines there. -/
  standardError : List String
  deriving DecidableEq

namespace Journal

/-- Nothing is kept, and no file is open. -/
def initial : Journal :=
  ⟨.silent, .initial, none, false, [], .empty, []⟩

def line (category : Category) (text : String) : String :=
  "[" ++ category.name ++ "] " ++ text

/-- The line that tells how many messages were refused. -/
def refusalLine (category : Category) (count : Nat) : String :=
  line category
    ("rate limit: " ++ toString count ++ " message(s) dropped in the last second")

/-- Write a line to standard error. -/
def print (journal : Journal) (line : String) : Journal :=
  { journal with standardError := journal.standardError ++ [line] }

/-- Put a line where lines go. -/
def emit (journal : Journal) (line : String) : Journal :=
  match journal.toFile, journal.sink with
  | true, some writer =>
      match writer.send line with
      | .ok writer => { journal with sink := some writer }
      | .error line => journal.print line
  | _, _ => journal.print line

def emitAll (journal : Journal) (lines : List String) : Journal :=
  lines.foldl emit journal

/-- The lines that a verdict on a message lets through. -/
def linesOf (category : Category) (verdict : Verdict) (text : String) : List String :=
  (verdict.reported.map (refusalLine category)).toList
    ++ if verdict.admitted then [line category text] else []

/-- Take a message at a time. The answer is whether it was put in words. -/
def record (journal : Journal) (now : Time) (category : Category) (level : Level)
    (text : String) : Bool × Journal :=
  if journal.thresholds.keeps category level then
    let decided := journal.limiter.judge category now
    (decided.1.admitted,
      { journal with limiter := decided.2 }.emitAll (linesOf category decided.1 text))
  else (false, journal)

/-- All writers, the one that lines can be sent to last. -/
def writers (journal : Journal) : List Writer :=
  journal.retired ++ journal.sink.toList

/-- Which writer is meant. -/
inductive Pen where
  | current
  /-- One of those that have retired, counted from the first. -/
  | retired (place : Nat)
  deriving DecidableEq

def writer? (journal : Journal) : Pen → Option Writer
  | .current => journal.sink
  | .retired place => journal.retired[place]?

/-- Put a writer in the place of another. -/
def withWriter (journal : Journal) (pen : Pen) (writer : Writer) : Journal :=
  match pen with
  | .current => { journal with sink := some writer }
  | .retired place => { journal with retired := journal.retired.set place writer }

/-- Let a writer take a step. -/
def step (journal : Journal) (take : Writer → Shelf → Writer × Shelf) (pen : Pen) : Journal :=
  match journal.writer? pen with
  | none => journal
  | some writer =>
      let taken := take writer journal.shelf
      { journal.withWriter pen taken.1 with shelf := taken.2 }

/-- Let all writers write what they were sent. -/
def settle (journal : Journal) : Journal :=
  { journal with
    sink := journal.sink.map Writer.idle
    retired := journal.retired.map Writer.idle
    shelf := journal.writers.foldl (fun shelf writer => writer.finish shelf) journal.shelf }

/-- Let lines go to a file from now on, by a writer of its own. -/
def turnTo (journal : Journal) (file : String) : Journal :=
  { journal with
    shelf := journal.shelf.make file
    retired := journal.writers
    sink := some (.start file)
    toFile := true }

/-- Ask for a path and let lines go to the file there. The answer is why they do not,
if it cannot be opened or gets no writer; then they go on going where they went. -/
def openFile (journal : Journal) (system : System) (path : String) :
    Option SystemError × Journal :=
  match system path with
  | .ready file => (none, journal.turnTo file)
  | .unattended file error => (some error, { journal with shelf := journal.shelf.make file })
  | .refused error => (some error, journal)

/-- Let lines go to standard error again. -/
def closeFile (journal : Journal) : Journal :=
  { journal with retired := journal.writers, sink := none, toFile := false }

/-- Silence all levels. Files stay open. -/
def reset (journal : Journal) : Journal :=
  { journal with thresholds := .silent }

end Journal

end LynxSuzy
