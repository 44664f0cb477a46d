/-!
# Symbols

What JSON text is read from: a list of characters, or of characters and stray bytes where the text arrives as bytes
that need not be UTF-8 throughout.
-/

namespace StaffIndex.Json

inductive Symbol where
  | char (c : Char)
  /-- A byte that belongs to no character. -/
  | stray (byte : UInt8)
  deriving DecidableEq

namespace Symbol

/-- The number of bytes that the symbol takes up. -/
def size : Symbol → Nat
  | char c => c.utf8Size
  | stray _ => 1

def isChar (c : Char) : Symbol → Bool
  | char d => c == d
  | stray _ => false

/-- The symbols of a text. -/
def ofString (text : String) : List Symbol := text.toList.map char

def char? : Symbol → Option Char
  | char c => some c
  | stray _ => none

/-- The payload of a continuation byte. -/
def continuation? (b : UInt8) : Option Nat :=
  if 0x80 ≤ b.toNat ∧ b.toNat < 0xC0 then some (b.toNat - 0x80) else none

/-- The character of a code point that needs at least `least` to be written at this length. -/
def ofCode? (least n : Nat) : Option Char :=
  if h : least ≤ n ∧ n.isValidChar then some (Char.ofNatAux n h.2) else none

/-- The character that the bytes start with, if they start with one, and the number of its bytes after the first. -/
def first? : List UInt8 → Option (Char × Nat)
  | [] => none
  | b :: bytes =>
    let n := b.toNat
    if n < 0x80 then some (Char.ofNat n, 0)
    else if 0xC0 ≤ n ∧ n < 0xE0 then do
      let x ← bytes[0]? >>= continuation?
      return (← ofCode? 0x80 ((n - 0xC0) * 0x40 + x), 1)
    else if 0xE0 ≤ n ∧ n < 0xF0 then do
      let x ← bytes[0]? >>= continuation?
      let y ← bytes[1]? >>= continuation?
      return (← ofCode? 0x800 (((n - 0xE0) * 0x40 + x) * 0x40 + y), 2)
    else if 0xF0 ≤ n ∧ n < 0xF8 then do
      let x ← bytes[0]? >>= continuation?
      let y ← bytes[1]? >>= continuation?
      let z ← bytes[2]? >>= continuation?
      return (← ofCode? 0x10000 ((((n - 0xF0) * 0x40 + x) * 0x40 + y) * 0x40 + z), 3)
    else none

/-- The symbols of the bytes after the first `skip` ones, put before those in `read`, which are in reverse. -/
def decode (skip : Nat) (read : List Symbol) : List UInt8 → List Symbol
  | [] => read.reverse
  | b :: bytes => match skip with
    | skip + 1 => decode skip read bytes
    | 0 => match first? (b :: bytes) with
      | some (c, more) => decode more (.char c :: read) bytes
      | none => decode 0 (.stray b :: read) bytes

/-- The symbols of bytes: a character wherever the bytes from there on begin with one. -/
def ofBytes (bytes : ByteArray) : List Symbol := decode 0 [] bytes.toList

end Symbol

end StaffIndex.Json
