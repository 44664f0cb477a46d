import StaffIndex.Text.Quoted

/-!
# Socket addresses

An address is a host, of version 4 or 6, and a port. `Address.parse` reads the usual notations and `Address.text`
writes one of them: hosts of version 6 in brackets, with the first of the longest runs of at least two zero groups left
out, and those that stand for a host of version 4 with that host in its own notation.
-/

namespace StaffIndex.Net

/-- Four numbers below 256. -/
structure Host4 where
  octets : List Nat
  deriving DecidableEq

/-- Eight numbers below 65536, and the number of the network that the host is in, zero for none. -/
structure Host6 where
  groups : List Nat
  scope : Nat
  deriving DecidableEq

inductive Address where
  | v4 (host : Host4) (port : Nat)
  | v6 (host : Host6) (port : Nat)
  deriving DecidableEq

/-! ## Reading -/

/-- A step in reading that may fail; then nothing is taken. -/
abbrev Parser (α : Type) := List Char → Option (α × List Char)

/-- The value of a digit to the base. -/
def digit? (base : Nat) (c : Char) : Option Nat :=
  let value? :=
    if '0' ≤ c ∧ c ≤ '9' then some (c.toNat - 48)
    else if 'a' ≤ c ∧ c ≤ 'z' then some (c.toNat - 87)
    else if 'A' ≤ c ∧ c ≤ 'Z' then some (c.toNat - 55)
    else none
  value?.filter (· < base)

def char (c : Char) : Parser Unit
  | [] => none
  | d :: text => if d = c then some ((), text) else none

/-- A number to the base, of at least one digit, below the limit. -/
def number (base limit : Nat) : Parser Nat := fun text =>
  let (digits, rest) := text.span fun c => (digit? base c).isSome
  let n := digits.foldl (fun n c => base * n + (digit? base c).getD 0) 0
  if digits = [] ∨ limit ≤ n then none else some (n, rest)

/-- A number of at most so many digits. -/
def shortNumber (base limit most : Nat) : Parser Nat := fun text =>
  if most < (text.takeWhile fun c => (digit? base c).isSome).length then none else number base limit text

/-- A number below 256 without leading zeros. -/
def octet : Parser Nat := fun text =>
  match text with
  | '0' :: d :: _ => if (digit? 10 d).isSome then none else shortNumber 10 256 3 text
  | _ => shortNumber 10 256 3 text

def host4 : Parser Host4 := fun text => do
  let (a, text) ← octet text
  let ((), text) ← char '.' text
  let (b, text) ← octet text
  let ((), text) ← char '.' text
  let (c, text) ← octet text
  let ((), text) ← char '.' text
  let (d, text) ← octet text
  return (⟨[a, b, c, d]⟩, text)

/-- The two groups that stand for a host of version 4. -/
def Host4.groups (h : Host4) : List Nat :=
  match h.octets with
  | [a, b, c, d] => [a * 256 + b, c * 256 + d]
  | _ => []

/-- What the colon between two groups makes of a parser: from the second group on it has to come first. -/
def afterColon {α : Type} (first : Bool) (p : Parser α) : Parser α := fun text =>
  if first then p text else (char ':' text).bind fun x => p x.2

/-- At most `n` groups, and whether the last two stand for a host of version 4. -/
def groups (first : Bool) : Nat → List Char → (List Nat × Bool) × List Char
  | 0, text => (([], false), text)
  | n + 1, text =>
    match if 0 < n then afterColon first host4 text else none with
    | some (h, text) => ((h.groups, true), text)
    | none => match afterColon first (shortNumber 16 65536 4) text with
      | none => (([], false), text)
      | some (g, text) =>
        let ((gs, v4), text) := groups false n text
        ((g :: gs, v4), text)

/-- Eight groups, or fewer with `::` for the missing ones, of which there has to be one. -/
def groups6 : Parser (List Nat) := fun text =>
  let ((head, v4), text) := groups true 8 text
  if head.length = 8 then some (head, text)
  else if v4 then none
  else do
    let ((), text) ← char ':' text
    let ((), text) ← char ':' text
    let ((tail, _), text) := groups true (7 - head.length) text
    return (head ++ List.replicate (8 - head.length - tail.length) 0 ++ tail, text)

/-- A percent sign and a number, or nothing. -/
def scope (text : List Char) : Nat × List Char :=
  (((char '%' text).bind fun x => number 10 0x100000000 x.2)).getD (0, text)

def port : Parser Nat := fun text => do
  let ((), text) ← char ':' text
  number 10 65536 text

def address4 : Parser Address := fun text => do
  let (host, text) ← host4 text
  let (port, text) ← port text
  return (.v4 host port, text)

def address6 : Parser Address := fun text => do
  let ((), text) ← char '[' text
  let (groups, text) ← groups6 text
  let (scope, text) := scope text
  let ((), text) ← char ']' text
  let (port, text) ← port text
  return (.v6 ⟨groups, scope⟩ port, text)

/-- The address that the whole text stands for. -/
def Address.parse (text : String) : Option Address :=
  match (address4 text.toList).or (address6 text.toList) with
  | some (address, []) => some address
  | _ => none

/-! ## Writing -/

def decimal (n : Nat) : String := String.ofList (Nat.toDigits 10 n)

def Host4.text (h : Host4) : String := ".".intercalate (h.octets.map decimal)

/-- The start and the length of the first of the longest runs of zeros in a list of which the `n`-th element is first. -/
def longestZeros (n : Nat) : List Nat → Nat × Nat
  | [] => (n, 0)
  | g :: gs =>
    let here := ((g :: gs).takeWhile (· = 0)).length
    let later := longestZeros (n + 1) gs
    if later.2 ≤ here then (n, here) else later

def groupsText (gs : List Nat) : String := ":".intercalate (gs.map fun g => String.ofList (Text.hexDigits g))

/-- The host of version 4 that a host of version 6 stands for. -/
def Host6.mapped? (h : Host6) : Option Host4 :=
  match h.groups with
  | [0, 0, 0, 0, 0, 0xFFFF, a, b] => some ⟨[a / 256, a % 256, b / 256, b % 256]⟩
  | _ => none

def Host6.text (h : Host6) : String :=
  match h.mapped? with
  | some v4 => s!"::ffff:{v4.text}"
  | none =>
    let (start, length) := longestZeros 0 h.groups
    if 1 < length then s!"{groupsText (h.groups.take start)}::{groupsText (h.groups.drop (start + length))}"
    else groupsText h.groups

def Address.text : Address → String
  | v4 host port => s!"{host.text}:{decimal port}"
  | v6 host port =>
    if host.scope = 0 then s!"[{host.text}]:{decimal port}"
    else s!"[{host.text}%{decimal host.scope}]:{decimal port}"

end StaffIndex.Net
