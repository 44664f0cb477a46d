import StaffIndex.Decimal.Binary

/-!
# The shortest decimal

A floating-point number is written with the fewest digits that read back as it, and of several decimals of that length
the nearest. The candidates of a length are the two neighbours of the number on the grid of decimals of that length.
-/

namespace StaffIndex.Decimal

/-- The positive numbers that round to a double, as fractions with one denominator. -/
structure Neighbourhood where
  value : Nat
  low : Nat
  high : Nat
  den : Nat
  /-- The ends of the interval round to the double too. -/
  closed : Bool

/-- The numbers that round to `m * 2 ^ q`. Below a power of two the spacing is halved. -/
def Neighbourhood.of (m : Nat) (q : Int) : Neighbourhood :=
  let unit := if 2 ≤ q then Nat.pow 2 (q - 2).toNat else 1
  let den := if 2 ≤ q then 1 else Nat.pow 2 (2 - q).toNat
  let below := if m = Nat.pow 2 52 ∧ q ≠ -1074 then 1 else 2
  ⟨4 * m * unit, (4 * m - below) * unit, (4 * m + 2) * unit, den, m % 2 == 0⟩

namespace Neighbourhood

/-- Does the neighbourhood hold `d * 10 ^ k`? -/
def holds (v : Neighbourhood) (d : Nat) (k : Int) : Bool :=
  let up := Nat.pow 10 (-k).toNat
  let x := d * Nat.pow 10 k.toNat * v.den
  if v.closed then v.low * up ≤ x && x ≤ v.high * up else v.low * up < x && x < v.high * up

/-- The exponent of the leading digit. -/
def leading (v : Neighbourhood) : Int :=
  if v.den ≤ v.value then (Nat.toDigits 10 (v.value / v.den)).length - 1
  else
    let zeros := (List.range 400).takeWhile fun j => v.value * Nat.pow 10 (j + 1) < v.den
    Int.negSucc zeros.length

/-- The nearest decimal `d * 10 ^ k` in the neighbourhood, the even one of two, if there is any. -/
def nearest? (v : Neighbourhood) (k : Int) : Option Nat :=
  let num := v.value * Nat.pow 10 (-k).toNat
  let den := v.den * Nat.pow 10 k.toNat
  let near := roundHalfEven num den
  let far := if near = num / den then num / den + 1 else num / den
  if v.holds near k then some near else if v.holds far k then some far else none

/-- The shortest decimal `(d, k)` in the neighbourhood, standing for `d * 10 ^ k`. -/
def shortest (v : Neighbourhood) : Nat × Int :=
  ((List.range 17).findSome? fun (n : Nat) =>
    let k := v.leading - n
    (v.nearest? k).map (·, k)).getD (0, 0)

end Neighbourhood

/-- How the digits are laid out. -/
structure Layout where
  /-- Numbers whose leading digit has an exponent in this range are written without an exponent. -/
  leastPlain : Int
  mostPlain : Int

/-- The digits without zeros at the end, and the exponent of the leading one. -/
def significant (d : Nat) (k : Int) : List Char × Int :=
  let digits := Nat.toDigits 10 d
  ((digits.reverse.dropWhile (· = '0')).reverse, k + digits.length - 1)

/-- An exponent with its sign, a plus too. -/
def exponentText (e : Int) : List Char := (if e < 0 then '-' else '+') :: Nat.toDigits 10 e.natAbs

/-- Digits whose leading one has the exponent `e`. A number without a fraction ends in `.0` unless it has an exponent. -/
def Layout.write (layout : Layout) (digits : List Char) (e : Int) : List Char :=
  if layout.leastPlain ≤ e ∧ e ≤ layout.mostPlain then
    if e < 0 then '0' :: '.' :: (List.replicate (-e - 1).toNat '0' ++ digits)
    else
      let whole := digits.take (e + 1).toNat
      let fraction := digits.drop (e + 1).toNat
      whole ++ List.replicate ((e + 1).toNat - digits.length) '0' ++ '.' :: (if fraction = [] then ['0'] else fraction)
  else
    let mantissa := match digits with
      | [d] => [d]
      | d :: ds => d :: '.' :: ds
      | [] => ['0']
    mantissa ++ 'e' :: exponentText e

/-- The text of a finite number. -/
def Layout.text (layout : Layout) (x : Float) : String :=
  let bits := x.toBits.toNat
  let magnitude := bits % BinaryFormat.double.signBit
  let digits :=
    if magnitude = 0 then "0.0".toList
    else
      let (m, q) := decodeDouble magnitude
      let (d, k) := (Neighbourhood.of m q).shortest
      let (ds, e) := significant d k
      layout.write ds e
  String.ofList (if bits < BinaryFormat.double.signBit then digits else '-' :: digits)

end StaffIndex.Decimal
