/-!
Contract: documents as saved states are kept in.

Owns: the values of a document and the ways to look into it: members by name,
and the fields of a record.

A record is written as an object with a member for each field. It is read from
such an object, whatever else it holds, or from an array with exactly its fields
in order.

Does **not** own: the text of a document, or what its records mean
(`Json.Codec`).
-/

set_option autoImplicit false

namespace LynxSuzy

inductive Json where
  | null
  | bool (value : Bool)
  /-- A number written without fraction and exponent. -/
  | integer (value : Int)
  /-- A number written with a fraction or an exponent, kept as it was written.
  It is never taken for an integer, even if it has the value of one. -/
  | decimal (written : String)
  | string (value : String)
  | array (elements : List Json)
  /-- The members of an object; no name occurs twice. -/
  | object (members : List (String × Json))

namespace Json

def get? (document : Json) (name : String) : Option Json :=
  match document with
  | object members => members.lookup name
  | _ => none

def natBelow? (bound : Nat) : Json → Option Nat
  | integer (.ofNat value) => if value < bound then some value else none
  | _ => none

def string? : Json → Option String
  | string value => some value
  | _ => none

def bool? : Json → Option Bool
  | bool value => some value
  | _ => none

def elements? : Json → Option (List Json)
  | array elements => some elements
  | _ => none

/-- The fields of a record, each of which may be missing from an object but not
from an array. -/
def fields? (names : List String) : Json → Option (List (Option Json))
  | object members => some (names.map fun name => members.lookup name)
  | array elements =>
      if elements.length = names.length then some (elements.map some) else none
  | _ => none

def record? (names : List String) (document : Json) : Option (List Json) := do
  (← document.fields? names).mapM id

end Json

end LynxSuzy
