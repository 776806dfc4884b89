import LynxSuzy.Text.Extending
import LynxSuzy.Text.Hexadecimal
import LynxSuzy.Text.Printable

/-!
Contract: a text between quotes, so that every character of it can be seen.

Owns: which characters show, and the escapes. Quotes and backslashes are
escaped, four controls have short forms, and every other character that would
not show, or would join the one before it, is written as its number.
-/

set_option autoImplicit false

namespace LynxSuzy.Text

/-- The letters that only fill the place of a Hangul letter and are blank. -/
def fillers : List Nat := [0x115F, 0x1160, 0x3164, 0xFFA0]

/-- The half-width sound marks of Katakana. They count as extending, but each
stands in a cell of its own, beside the letter that it changes. -/
def soundMarks : List Nat := [0xFF9E, 0xFF9F]

/-- Whether a character can be seen, and told from the one before it. -/
def shows (character : Char) : Bool :=
  isPrintable character && !fillers.contains character.toNat
    && (!isExtending character || soundMarks.contains character.toNat)

def escapeNumber (character : Char) : String :=
  "\\u\x7b" ++ hexadecimal character.toNat ++ "\x7d"

def escape (character : Char) : String :=
  match character.toNat with
  | 0x00 => "\\0"
  | 0x09 => "\\t"
  | 0x0A => "\\n"
  | 0x0D => "\\r"
  | 0x22 => "\\\x22"
  | 0x5C => "\\\\"
  | _ => if shows character then character.toString else escapeNumber character

def quote (text : String) : String :=
  "\x22" ++ String.join (text.toList.map escape) ++ "\x22"

end LynxSuzy.Text
