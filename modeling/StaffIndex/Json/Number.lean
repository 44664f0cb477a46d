import StaffIndex.Json.Reader

/-!
# Numbers in JSON text

A number without fraction and exponent is an integer if it fits into 64 bits, with a sign or without; every other one is
a floating-point number. Its significand keeps the leading digits that fit into 64 bits, and is then multiplied or
divided by powers of ten, so the last digit may be off by the rounding of two operations.
-/

namespace StaffIndex.Json

inductive Number where
  | natural (n : Nat)
  | negative (n : Int)
  | float (x : Float)

def Number.found : Number → Found
  | natural n => .integer n
  | negative n => .integer n
  | float x => .float x

def digit? : Symbol → Option Nat
  | .char c => if '0' ≤ c ∧ c ≤ '9' then some (c.toNat - 48) else none
  | .stray _ => none

def startsWithDigit (s : List Symbol) : Bool := (s.head?.bind digit?).isSome

/-- Takes digits as long as the number that they stand for, after `n`, stays below the limit. -/
def takeBelow (limit n : Nat) : List Symbol → Nat × List Symbol
  | [] => (n, [])
  | c :: s => match digit? c with
    | some d => if 10 * n + d < limit then takeBelow limit (10 * n + d) s else (n, c :: s)
    | none => (n, c :: s)

def dropDigits (s : List Symbol) : List Symbol := s.dropWhile fun c => (digit? c).isSome

theorem takeBelow_le (limit n : Nat) (s : List Symbol) : (takeBelow limit n s).2.length ≤ s.length := by
  induction s generalizing n with
  | nil => exact Nat.le_refl _
  | cons c s ih =>
    unfold takeBelow
    split
    · split
      · exact Nat.le_succ_of_le (ih _)
      · exact Nat.le_refl _
    · exact Nat.le_refl _

theorem dropDigits_le (s : List Symbol) : (dropDigits s).length ≤ s.length := (List.dropWhile_sublist _).length_le

/-- Significands have 64 bits. -/
def significandLimit : Nat := 0x10000000000000000

/-- Exponents have 32 bits with their sign. -/
def exponentLimit : Nat := 0x80000000

/-- `x * 10 ^ e`. -/
def scale (x : Float) (e : Int) : Except Cause Float :=
  if e.natAbs ≤ 308 then
    let power := Float.ofScientific 1 false e.natAbs
    if e < 0 then .ok (x / power)
    else if (x * power).isInf then .error .numberOutOfRange
    else .ok (x * power)
  else if x == 0 then .ok x
  else if 0 ≤ e then .error .numberOutOfRange
  else scale (x / 1e308) (e + 308)
termination_by e.natAbs

def signed (positive : Bool) (x : Float) : Number := .float (if positive then x else -x)

/-- The number with the given significand and exponent. -/
def makeFloat (positive : Bool) (significand : Nat) (e : Int) : Except Cause Number :=
  (scale (Float.ofNat significand) e).map (signed positive)

/-- The sign before an exponent, upwards unless it is a minus, and the rest. -/
def takeSign : List Symbol → Bool × List Symbol
  | .char '+' :: s => (true, s)
  | .char '-' :: s => (false, s)
  | s => (true, s)

/-- Reads the digits of an exponent. -/
def takeExponentDigits (positive up : Bool) (significand : Nat) (e : Int) : List Symbol → Taken Number
  | [] => .error (.unfinished .value)
  | c :: s =>
    if (digit? c).isNone then .error .invalidNumber
    else
      let (n, rest) := takeBelow exponentLimit 0 (c :: s)
      if startsWithDigit rest then
        if significand ≠ 0 ∧ up then .error .numberOutOfRange
        else .ok (signed positive 0, dropDigits rest)
      else (makeFloat positive significand (if up then e + n else e - n)).map (·, rest)

/-- Reads what follows an exponent mark. -/
def takeExponent (positive : Bool) (significand : Nat) (e : Int) (s : List Symbol) : Taken Number :=
  takeExponentDigits positive (takeSign s).1 significand e (takeSign s).2

/-- Reads on where an exponent may follow. -/
def takeScaled (positive : Bool) (significand : Nat) (e : Int) : List Symbol → Taken Number
  | .char 'e' :: s => takeExponent positive significand e s
  | .char 'E' :: s => takeExponent positive significand e s
  | s => (makeFloat positive significand e).map (·, s)

/-- Reads what follows a point. Digits that no longer fit into the significand are dropped. -/
def takeFraction (positive : Bool) (significand : Nat) (e : Int) (s : List Symbol) : Taken Number :=
  let (n, rest) := takeBelow significandLimit significand s
  if startsWithDigit rest then takeScaled positive n (e - (s.length - rest.length : Nat)) (dropDigits rest)
  else if rest.length = s.length then
    .error (if s = [] then .unfinished .value else .invalidNumber)
  else takeScaled positive n (e - (s.length - rest.length : Nat)) rest

/-- Reads on after an integer that fits into the significand. -/
def takeShort (positive : Bool) (significand : Nat) : List Symbol → Taken Number
  | .char '.' :: s => takeFraction positive significand 0 s
  | .char 'e' :: s => takeExponent positive significand 0 s
  | .char 'E' :: s => takeExponent positive significand 0 s
  | s =>
    if positive then .ok (.natural significand, s)
    else if significand = 0 ∨ 0x8000000000000000 < significand then .ok (signed false (Float.ofNat significand), s)
    else .ok (.negative (-significand), s)

/-- Reads on after the part of an integer that fits into the significand; each further digit is a power of ten. -/
def takeLong (positive : Bool) (significand : Nat) (s : List Symbol) : Taken Number :=
  let rest := dropDigits s
  let e : Int := (s.length - rest.length : Nat)
  match rest with
  | .char '.' :: t => takeFraction positive significand e t
  | rest => takeScaled positive significand e rest

/-- Reads a number after its sign. -/
def takeNumber (positive : Bool) : List Symbol → Taken Number
  | [] => .error (.unfinished .value)
  | c :: s =>
    match digit? c with
    | none => .error .invalidNumber
    | some 0 => if startsWithDigit s then .error .invalidNumber else takeShort positive 0 s
    | some d =>
      let (n, rest) := takeBelow significandLimit d s
      if startsWithDigit rest then takeLong positive n rest else takeShort positive n rest

/-! ## What is left over -/

section Left

variable {positive : Bool} {significand : Nat} {e : Int} {s r : List Symbol} {n : Number}

theorem map_ok_eq {x : Except Cause Number} (h : x.map (·, s) = .ok (n, r)) : r = s := by
  cases x <;> simp [Except.map] at h; exact h.2.symm

theorem takeSign_le (s : List Symbol) : (takeSign s).2.length ≤ s.length := by
  unfold takeSign; split <;> simp

theorem takeExponentDigits_le {up : Bool} (h : takeExponentDigits positive up significand e s = .ok (n, r)) :
    r.length ≤ s.length := by
  unfold takeExponentDigits at h
  split at h
  · cases h
  · next c s =>
    have hb := takeBelow_le exponentLimit 0 (c :: s)
    split at h
    · cases h
    · simp only at h
      split at h
      · split at h
        · cases h
        · cases h; exact Nat.le_trans (dropDigits_le _) hb
      · exact map_ok_eq h ▸ hb

theorem takeExponent_le (h : takeExponent positive significand e s = .ok (n, r)) : r.length ≤ s.length :=
  Nat.le_trans (takeExponentDigits_le h) (takeSign_le s)

theorem takeScaled_le (h : takeScaled positive significand e s = .ok (n, r)) : r.length ≤ s.length := by
  unfold takeScaled at h
  split at h
  · exact Nat.le_succ_of_le (takeExponent_le h)
  · exact Nat.le_succ_of_le (takeExponent_le h)
  · have := map_ok_eq h; subst this; exact Nat.le_refl _

theorem takeFraction_le (h : takeFraction positive significand e s = .ok (n, r)) : r.length ≤ s.length := by
  have hb := takeBelow_le significandLimit significand s
  unfold takeFraction at h
  simp only at h
  split at h
  · exact Nat.le_trans (takeScaled_le h) (Nat.le_trans (dropDigits_le _) hb)
  · split at h
    · cases h
    · exact Nat.le_trans (takeScaled_le h) hb

theorem takeShort_le (h : takeShort positive significand s = .ok (n, r)) : r.length ≤ s.length := by
  unfold takeShort at h
  split at h
  · exact Nat.le_succ_of_le (takeFraction_le h)
  · exact Nat.le_succ_of_le (takeExponent_le h)
  · exact Nat.le_succ_of_le (takeExponent_le h)
  · split at h
    · cases h; exact Nat.le_refl _
    · split at h <;> cases h <;> exact Nat.le_refl _

theorem takeLong_le (h : takeLong positive significand s = .ok (n, r)) : r.length ≤ s.length := by
  have hd := dropDigits_le s
  unfold takeLong at h
  simp only at h
  split at h
  · next hs => rw [hs] at hd; exact Nat.le_trans (takeFraction_le h) (Nat.le_of_succ_le hd)
  · exact Nat.le_trans (takeScaled_le h) hd

theorem takeNumber_lt (h : takeNumber positive s = .ok (n, r)) : r.length < s.length := by
  unfold takeNumber at h
  split at h
  · cases h
  · refine Nat.lt_succ_of_le ?_
    split at h
    · cases h
    · split at h
      · cases h
      · exact takeShort_le h
    · next c s _ d _ _ =>
      have hb := takeBelow_le significandLimit d s
      simp only at h
      split at h
      · exact Nat.le_trans (takeLong_le h) hb
      · exact Nat.le_trans (takeShort_le h) hb

end Left

end StaffIndex.Json
