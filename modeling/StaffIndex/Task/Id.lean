import StaffIndex.Json.Record
import StaffIndex.Json.Written

/-!
# Task ids

A task in the log goes by an id, a text that by chance alone no other task has: a random UUID of version 4.
-/

namespace StaffIndex

structure TaskId where
  text : String
  deriving DecidableEq

namespace TaskId

def reader : Json.Reader TaskId := Json.Reader.text.bind fun text => .pure ⟨text⟩

def written (id : TaskId) : List Char := Json.Written.text id.text

/-- The `count` lowest digits of `n` to the base sixteen. -/
def hexDigits (count n : Nat) : List Char :=
  (List.range count).reverse.map fun i => Json.Written.hexDigit (n / Nat.pow 16 i % 16)

/-- The id with the given random bits, of which 122 count. -/
def ofBits (bits : Nat) : TaskId :=
  ⟨String.ofList (['-'].intercalate [
    hexDigits 8 bits,
    hexDigits 4 (bits / Nat.pow 2 32),
    '4' :: hexDigits 3 (bits / Nat.pow 2 48),
    hexDigits 1 (8 + bits / Nat.pow 2 60 % 4) ++ hexDigits 3 (bits / Nat.pow 2 62),
    hexDigits 12 (bits / Nat.pow 2 74)])⟩

/-- Is this the text of a UUID of version 4 in lower case? -/
def isUuid (text : String) : Bool :=
  let isHex (c : Char) : Bool := c.isDigit || ('a' ≤ c && c ≤ 'f')
  let chars := text.toList
  chars.length == 36 && chars.zipIdx.all fun (c, i) =>
    if i = 8 ∨ i = 13 ∨ i = 18 ∨ i = 23 then c = '-'
    else if i = 14 then c = '4'
    else if i = 19 then c = '8' || c = '9' || c = 'a' || c = 'b'
    else isHex c

end TaskId

end StaffIndex
