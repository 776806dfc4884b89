import LynxSuzy.Journal.Shelf

/-!
Contract: a writer, which works in the background and puts lines in one file.

Owns: the lines that were sent to it and are not in the file yet, in order;
sending it a line; and its steps, each of which puts the first of these lines in
the file or comes to an end over it.

Does **not** own: which writer a line is sent to (`Journal`). A writer takes its
steps when it will, also while no more lines can be sent to it.
-/

set_option autoImplicit false

namespace LynxSuzy.Journal

structure Writer where
  /-- The name of its file. -/
  file : String
  waiting : List String
  /-- Whether it has come to an end over a line that could not be written. -/
  ended : Bool
  deriving DecidableEq

namespace Writer

def start (file : String) : Writer := ⟨file, [], false⟩

/-- Send a line to a writer. One that has ended gives it back. -/
def send (writer : Writer) (line : String) : Except String Writer :=
  if writer.ended then .error line
  else .ok { writer with waiting := writer.waiting ++ [line] }

/-- Put the first line that waits in the file. -/
def write (writer : Writer) (shelf : Shelf) : Writer × Shelf :=
  match writer.waiting with
  | [] => (writer, shelf)
  | line :: rest => ({ writer with waiting := rest }, shelf.append writer.file line)

/-- End over the first line that waits. Those behind it are lost with it. -/
def fail (writer : Writer) (shelf : Shelf) : Writer × Shelf :=
  match writer.waiting with
  | [] => (writer, shelf)
  | _ :: _ => ({ writer with waiting := [], ended := true }, shelf)

/-- A writer that has written all it was sent. -/
def idle (writer : Writer) : Writer :=
  { writer with waiting := [] }

/-- The files once a writer has written all it was sent. -/
def finish (writer : Writer) (shelf : Shelf) : Shelf :=
  writer.waiting.foldl (fun shelf line => shelf.append writer.file line) shelf

end Writer

end LynxSuzy.Journal
