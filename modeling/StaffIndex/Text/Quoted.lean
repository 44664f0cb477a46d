import StaffIndex.Text.HiddenTable
import StaffIndex.Text.Ranges

/-!
# Quoted text

How a message shows a text that came from outside: in double quotes, with the quote, the backslash and every character
that does not show escaped.
-/

namespace StaffIndex.Text

/-- The digits of a number to the base sixteen. -/
def hexDigits (n : Nat) : List Char := Nat.toDigits 16 n

def quotedChar (c : Char) : List Char :=
  match c with
  | '\x00' => ['\\', '0']
  | '\t' => ['\\', 't']
  | '\n' => ['\\', 'n']
  | '\r' => ['\\', 'r']
  | '"' => ['\\', '"']
  | '\\' => ['\\', '\\']
  | c =>
    if inRanges hiddenRanges c.toNat then ['\\', 'u', '\x7b'] ++ hexDigits c.toNat ++ ['\x7d'] else [c]

def quoted (text : String) : String := String.ofList ('"' :: (text.toList.flatMap quotedChar ++ ['"']))

end StaffIndex.Text
