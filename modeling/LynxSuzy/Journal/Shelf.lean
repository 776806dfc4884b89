/-!
Contract: log files, and what the system makes of a path to one.

Owns: the lines in each file; and what can come of asking for a path, where lines
are to be appended. Which of these it is, and for which file, the system decides each
time: a path may be refused that was opened before, and two may lead to one file.

Does **not** own: when lines are written (`Journal.Writer`).
-/

set_option autoImplicit false

namespace LynxSuzy.Journal

/-- An error of the system, by the name of its kind. -/
structure SystemError where
  name : String
  deriving DecidableEq, Repr

/-- What comes of asking for a path. -/
inductive Opening where
  /-- The file is open, and a writer was started for it. -/
  | ready (file : String)
  /-- The file is open, but no writer could be started. -/
  | unattended (file : String) (error : SystemError)
  | refused (error : SystemError)
  deriving DecidableEq, Repr

def Opening.ready? : Opening → Option String
  | .ready file => some file
  | .unattended _ _ | .refused _ => none

/-- What the system, as it is at some time, makes of each path. -/
abbrev System := String → Opening

/-- The log files, each with its lines in order. -/
structure Shelf where
  files : List (String × List String)
  deriving DecidableEq

namespace Shelf

def empty : Shelf := ⟨[]⟩

def lines? (shelf : Shelf) (file : String) : Option (List String) :=
  shelf.files.lookup file

/-- A file that is not there yet is made; one that is keeps its lines. -/
def make (shelf : Shelf) (file : String) : Shelf :=
  if (shelf.lines? file).isSome then shelf else ⟨shelf.files ++ [(file, [])]⟩

def append (shelf : Shelf) (file line : String) : Shelf :=
  ⟨shelf.files.map fun entry =>
    if entry.1 = file then (entry.1, entry.2 ++ [line]) else entry⟩

end Shelf

end LynxSuzy.Journal
