import StaffIndex.Decimal.Binary

/-!
# Reading numbers

Numbers as they are written in arguments: floating-point numbers in decimal, with an optional sign, fraction and
exponent, or by the names of infinity and of the undefined number in any case; and counts of at most 64 bits. The first
problem from the left is reported.
-/

namespace StaffIndex.Decimal

inductive FloatError where
  | empty
  | malformed
  deriving DecidableEq

def FloatError.message : FloatError → String
  | empty => "cannot parse float from empty string"
  | malformed => "invalid float literal"

/-- A decimal number without its sign: `digits * 10 ^ exponent`. -/
structure Scientific where
  digits : Nat
  exponent : Int

/-- The value of a digit. -/
def digit? (c : Char) : Option Nat :=
  if '0' ≤ c ∧ c ≤ '9' then some (c.toNat - '0'.toNat) else none

/-- The number that some digits stand for, after `n`. -/
def ofDigits (n : Nat) (digits : List Char) : Nat :=
  digits.foldl (fun n c => 10 * n + (digit? c).getD 0) n

/-- The digits at the front, and the rest. -/
def takeDigits (text : List Char) : List Char × List Char :=
  text.span fun c => (digit? c).isSome

/-- An exponent mark with its number and nothing after, or nothing at all. -/
def readExponent : List Char → Option Int
  | [] => some 0
  | c :: text =>
    if c = 'e' ∨ c = 'E' then
      let (negative, text) := match text with
        | '-' :: text => (true, text)
        | '+' :: text => (false, text)
        | text => (false, text)
      match takeDigits text with
      | (d :: ds, []) => some (if negative then -(ofDigits 0 (d :: ds) : Int) else ofDigits 0 (d :: ds))
      | _ => none
    else none

/-- Digits with a point somewhere among or beside them, and an exponent. -/
def readScientific (text : List Char) : Option Scientific :=
  let (whole, text) := takeDigits text
  let (fraction, text) := match text with
    | '.' :: text => takeDigits text
    | text => ([], text)
  if whole = [] ∧ fraction = [] then none
  else (readExponent text).map fun e => ⟨ofDigits 0 (whole ++ fraction), e - fraction.length⟩

/-- How many digits a number is written with. -/
def digitCount (n : Nat) : Nat := (Nat.toDigits 10 n).length

/-- The bit pattern nearest to a decimal number. What is beyond every format is not computed. -/
def Scientific.encode (s : Scientific) (f : BinaryFormat) : Nat :=
  let magnitude := s.exponent + digitCount s.digits
  if s.digits = 0 ∨ magnitude < -400 then 0
  else if 400 < magnitude then f.infinity
  else if 0 ≤ s.exponent then f.encode (s.digits * Nat.pow 10 s.exponent.toNat) 1
  else f.encode s.digits (Nat.pow 10 (-s.exponent).toNat)

/-- The bit pattern of a number without its sign. -/
def readMagnitude (f : BinaryFormat) (text : List Char) : Option Nat :=
  match readScientific text with
  | some s => some (s.encode f)
  | none =>
    let name := String.ofList (text.map Char.toLower)
    if name = "inf" ∨ name = "infinity" then some f.infinity
    else if name = "nan" then some f.undefined
    else none

/-- The bit pattern of the number that the text stands for. -/
def readBits (f : BinaryFormat) (text : String) : Except FloatError Nat :=
  let magnitude (text : List Char) : Except FloatError Nat :=
    match readMagnitude f text with
    | some bits => .ok bits
    | none => .error .malformed
  match text.toList with
  | [] => .error .empty
  | '-' :: text => (magnitude text).map (f.signBit + ·)
  | '+' :: text => magnitude text
  | text => magnitude text

def readFloat (text : String) : Except FloatError Float :=
  (readBits .double text).map fun bits => Float.ofBits (UInt64.ofNat bits)

def readFloat32 (text : String) : Except FloatError Float32 :=
  (readBits .single text).map fun bits => Float32.ofBits (UInt32.ofNat bits)

inductive CountError where
  | empty
  | invalidDigit
  | tooLarge
  deriving DecidableEq

def CountError.message : CountError → String
  | empty => "cannot parse integer from empty string"
  | invalidDigit => "invalid digit found in string"
  | tooLarge => "number too large to fit in target type"

/-- Counts have 64 bits. -/
def countLimit : Nat := 0x10000000000000000

/-- The count that some digits stand for, after `n`. -/
def readDigits (n : Nat) : List Char → Except CountError Nat
  | [] => .ok n
  | c :: text => match digit? c with
    | none => .error .invalidDigit
    | some d => if 10 * n + d < countLimit then readDigits (10 * n + d) text else .error .tooLarge

def readCount (text : String) : Except CountError Nat :=
  match text.toList with
  | [] => .error .empty
  | ['+'] => .error .invalidDigit
  | '+' :: text => readDigits 0 text
  | text => readDigits 0 text

end StaffIndex.Decimal
