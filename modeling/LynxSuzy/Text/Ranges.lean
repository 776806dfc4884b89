/-!
Contract: sets of code points given by the points where membership changes.

Owns: the membership check. A table lists, in ascending order, the first point
of each run of members and the first point after it, by turns; a point is a
member if an odd number of entries are not above it.
-/

set_option autoImplicit false

namespace LynxSuzy.Text

/-- Whether a point lies in one of the runs whose ends a table lists. -/
def inRuns (ends : List Nat) (point : Nat) : Bool :=
  match ends with
  | [] => false
  | [first] => decide (first ≤ point)
  | first :: past :: rest =>
      if point < first then false
      else if point < past then true
      else inRuns rest point

end LynxSuzy.Text
