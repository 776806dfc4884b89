import LynxSuzy.Text.Ranges

/-!
Contract: blank characters and trimming.

Owns: the characters with the White_Space property and the removal of them at
both ends of a text.
-/

set_option autoImplicit false

namespace LynxSuzy.Text

/-- Ends of the runs of blank characters. -/
def blankEnds : List Nat := [
  0x9, 0xE, 0x20, 0x21, 0x85, 0x86, 0xA0, 0xA1, 0x1680, 0x1681, 0x2000, 0x200B, 0x2028, 0x202A,
  0x202F, 0x2030, 0x205F, 0x2060, 0x3000, 0x3001]

def isBlank (character : Char) : Bool :=
  inRuns blankEnds character.toNat

/-- The text without the blanks at either end. -/
def trim (text : String) : String :=
  String.ofList ((text.toList.dropWhile isBlank).reverse.dropWhile isBlank).reverse

end LynxSuzy.Text
