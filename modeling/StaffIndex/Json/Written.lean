/-!
# Writing JSON text

JSON text without blanks. In a text the quote, the backslash and the control characters below the space are escaped,
five of them by a letter, and every other character stands for itself.
-/

namespace StaffIndex.Json.Written

/-- A digit to the base sixteen. -/
def hexDigit (n : Nat) : Char := Char.ofNat (if n < 10 then 48 + n else 87 + n)

def textChar (c : Char) : List Char :=
  if c = '"' then ['\\', '"']
  else if c = '\\' then ['\\', '\\']
  else if c = '\x08' then ['\\', 'b']
  else if c = '\t' then ['\\', 't']
  else if c = '\n' then ['\\', 'n']
  else if c = '\x0c' then ['\\', 'f']
  else if c = '\r' then ['\\', 'r']
  else if c.toNat < 0x20 then ['\\', 'u', '0', '0', hexDigit (c.toNat / 16), hexDigit (c.toNat % 16)]
  else [c]

def text (s : String) : List Char := '"' :: (s.toList.flatMap textChar ++ ['"'])

def null : List Char := ['n', 'u', 'l', 'l']

def count (n : Nat) : List Char := Nat.toDigits 10 n

def optional : Option String → List Char
  | none => null
  | some s => text s

/-- The parts with commas between them. -/
def separated : List (List Char) → List Char
  | [] => []
  | [p] => p
  | p :: ps => p ++ ',' :: separated ps

def list (elements : List (List Char)) : List Char := '[' :: (separated elements ++ [']'])

/-- The members by name, in the order given. -/
def object (members : List (String × List Char)) : List Char :=
  '\x7b' :: (separated (members.map fun m => text m.1 ++ ':' :: m.2) ++ ['\x7d'])

def texts (ss : List String) : List Char := list (ss.map text)

end StaffIndex.Json.Written
