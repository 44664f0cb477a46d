/-!
# Binary floating-point numbers

A binary format by the widths of its fields, as in IEEE 754, and the rounding of a positive fraction to the bit pattern
of the nearest number of the format, a half to the even pattern.
-/

namespace StaffIndex.Decimal

structure BinaryFormat where
  fractionBits : Nat
  exponentBits : Nat

def BinaryFormat.double : BinaryFormat := ⟨52, 11⟩

def BinaryFormat.single : BinaryFormat := ⟨23, 8⟩

namespace BinaryFormat

/-- The exponent of the unit in the last place of the smallest numbers. -/
def leastUnit (f : BinaryFormat) : Int := 2 - Nat.pow 2 (f.exponentBits - 1) - f.fractionBits

/-- The bit pattern of the positive infinity. -/
def infinity (f : BinaryFormat) : Nat := (Nat.pow 2 f.exponentBits - 1) * Nat.pow 2 f.fractionBits

/-- The bit pattern of the positive quiet undefined number. -/
def undefined (f : BinaryFormat) : Nat := f.infinity + Nat.pow 2 (f.fractionBits - 1)

/-- The sign bit. -/
def signBit (f : BinaryFormat) : Nat := Nat.pow 2 (f.exponentBits + f.fractionBits)

end BinaryFormat

/-- The integer nearest to `num / den`, the even one of two. -/
def roundHalfEven (num den : Nat) : Nat :=
  let q := num / den
  let twice := 2 * (num % den)
  if twice < den || (twice == den && q % 2 == 0) then q else q + 1

/-- `num / den / 2 ^ e` as a fraction. -/
def scaleBy (num den : Nat) (e : Int) : Nat × Nat :=
  if 0 ≤ e then (num, den * Nat.pow 2 e.toNat) else (num * Nat.pow 2 (-e).toNat, den)

namespace BinaryFormat

/-- The exponent of the unit in the last place for `num / den`: its significand then fills the format's fraction and the
leading bit, unless the number is too small for that. -/
def unitExponent (f : BinaryFormat) (num den : Nat) : Int :=
  let e : Int := num.log2 - den.log2 - f.fractionBits
  let (n, d) := scaleBy num den e
  max f.leastUnit (if n < d * Nat.pow 2 f.fractionBits then e - 1 else e)

/-- The bit pattern nearest to `num / den`. Counting patterns up from zero, a step at unit exponent `e` adds `2 ^ e`, so
a significand that rounds up to the next power of two needs no care. -/
def encode (f : BinaryFormat) (num den : Nat) : Nat :=
  if num = 0 then 0
  else
    let e := f.unitExponent num den
    let (n, d) := scaleBy num den e
    min f.infinity ((e - f.leastUnit).toNat * Nat.pow 2 f.fractionBits + roundHalfEven n d)

end BinaryFormat

/-- The significand and the unit exponent of a positive finite double. -/
def decodeDouble (bits : Nat) : Nat × Int :=
  let fraction : Nat := bits % Nat.pow 2 52
  let exponent : Nat := bits / Nat.pow 2 52 % Nat.pow 2 11
  if exponent = 0 then (fraction, -1074) else (Nat.pow 2 52 + fraction, (exponent : Int) - 1075)

end StaffIndex.Decimal
