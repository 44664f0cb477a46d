import StaffIndex.Proofs.Binary64.Units

/-!
# The sum of two numbers without a sign

Counted in units, sums are natural numbers, and a computed sum is the exact one rounded to 53 bits (`roundsTo_add`).

- It is off by at most one part in `2 ^ 53`, unless it is beyond the largest number and becomes infinite.
- It is not off at all if the exact sum has 53 bits at most, up to zeros at its end (`Fits`).
-/

namespace StaffIndex.Binary64

open Float.Model Float.Model.UnpackedFloat

/-! ## Rounding to the nearest -/

/-- After a shift the round bit is the highest of the bits that are gone, and the sticky bit tells whether there was
another one among them. -/
theorem shiftRight_succ (m k : Nat) : ExtendedMantissa.ofMantissaAndAccuracy m .exact >>> (k + 1) =
    ⟨m / 2 ^ (k + 1), m / 2 ^ k % 2 != 0, m % 2 ^ k != 0⟩ := by
  change Nat.repeat ExtendedMantissa.shiftRightOne (k + 1) ⟨m, false, false⟩ = _
  induction k with
  | zero => simp [Nat.repeat, ExtendedMantissa.shiftRightOne, Nat.mod_one]
  | succ k ih =>
    have hdiv : m / 2 ^ (k + 1) / 2 = m / 2 ^ (k + 1 + 1) := by rw [Nat.div_div_eq_div_mul, ← Nat.pow_succ]
    have hmod : (m / 2 ^ k % 2 != 0 || m % 2 ^ k != 0) = (m % 2 ^ (k + 1) != 0) := by
      rw [Nat.mod_pow_succ]
      have hpos : 0 < 2 ^ k := Nat.two_pow_pos k
      rcases Nat.mod_two_eq_zero_or_one (m / 2 ^ k) with hz | hone
      · simp [hz]
      · simp [hone]
    rw [Nat.repeat, ih, ExtendedMantissa.shiftRightOne, hdiv, hmod]

/-- What was shifted out is rounded down if it is half of a unit at most, and up if it is half of a unit at least. -/
theorem roundedMantissa_cases (m k : Nat) :
    let r := (ExtendedMantissa.ofMantissaAndAccuracy m .exact >>> (k + 1)).roundedMantissa
    r = m / 2 ^ (k + 1) ∧ m % 2 ^ (k + 1) ≤ 2 ^ k ∨ r = m / 2 ^ (k + 1) + 1 ∧ 2 ^ k ≤ m % 2 ^ (k + 1) := by
  have hlt : m % 2 ^ k < 2 ^ k := Nat.mod_lt _ (Nat.two_pow_pos k)
  rw [shiftRight_succ, Nat.mod_pow_succ]
  rcases Nat.mod_two_eq_zero_or_one (m / 2 ^ k) with hround | hround
  · rw [hround]
    refine .inl ⟨?_, by omega⟩
    rcases m % 2 ^ k != 0 <;> rfl
  · rw [hround]
    by_cases hsticky : m % 2 ^ k = 0
    · -- Exactly half of a unit: the even one of the two neighbours.
      rw [hsticky]
      change m / 2 ^ (k + 1) + m / 2 ^ (k + 1) % 2 = _ ∧ _ ∨ m / 2 ^ (k + 1) + m / 2 ^ (k + 1) % 2 = _ ∧ _
      omega
    · rw [bne_iff_ne.2 hsticky]
      exact .inr ⟨rfl, by omega⟩

/-- A significand is rounded by at most half a unit of what is left of it. -/
theorem roundedMantissa_error (m k : Nat) :
    let r := (ExtendedMantissa.ofMantissaAndAccuracy m .exact >>> k).roundedMantissa
    2 * (r * 2 ^ k) ≤ 2 * m + 2 ^ k ∧ 2 * m ≤ 2 * (r * 2 ^ k) + 2 ^ k := by
  cases k with
  | zero =>
    change 2 * (m * 1) ≤ 2 * m + 1 ∧ 2 * m ≤ 2 * (m * 1) + 1
    omega
  | succ k =>
    have hsplit := Nat.div_add_mod' m (2 ^ (k + 1))
    have hlt : m % 2 ^ (k + 1) < 2 ^ (k + 1) := Nat.mod_lt _ (Nat.two_pow_pos _)
    have hpow : 2 ^ (k + 1) = 2 ^ k * 2 := Nat.pow_succ 2 k
    rcases roundedMantissa_cases m k with ⟨hr, hle⟩ | ⟨hr, hge⟩
    · simp only [hr]
      omega
    · simp only [hr, Nat.add_mul]
      omega

/-- If nothing but zeros is shifted out, nothing is rounded. -/
theorem roundedMantissa_of_dvd {m k : Nat} (h : 2 ^ k ∣ m) :
    (ExtendedMantissa.ofMantissaAndAccuracy m .exact >>> k).roundedMantissa * 2 ^ k = m := by
  cases k with
  | zero => exact Nat.mul_one m
  | succ k =>
    have hpos : 0 < 2 ^ k := Nat.two_pow_pos k
    have hmod : m % 2 ^ (k + 1) = 0 := Nat.mod_eq_zero_of_dvd h
    rcases roundedMantissa_cases m k with ⟨hr, -⟩ | ⟨-, hge⟩
    · rw [hr, Nat.div_mul_cancel h]
    · omega

/-- A number of units that has 53 bits at most, up to zeros at its end. -/
def Fits (n : Nat) : Prop := ∃ q k, q < 2 ^ 53 ∧ n = q * 2 ^ k

/-- If there are more than 53 bits, the rest are zeros. -/
theorem Fits.dvd {m s j : Nat} (h : Fits (m * 2 ^ j)) (hm : 2 ^ 52 * 2 ^ s ≤ m) : 2 ^ s ∣ m := by
  obtain ⟨q, k, hq, heq⟩ := h
  have hlt : 2 ^ (52 + s + j) < 2 ^ (53 + k) := by
    calc 2 ^ (52 + s + j)
      _ = 2 ^ 52 * 2 ^ s * 2 ^ j := by rw [Nat.pow_add, Nat.pow_add]
      _ ≤ q * 2 ^ k := heq ▸ Nat.mul_le_mul_right _ hm
      _ < 2 ^ 53 * 2 ^ k := Nat.mul_lt_mul_of_pos_right hq (Nat.two_pow_pos k)
      _ = 2 ^ (53 + k) := (Nat.pow_add ..).symm
  have hk : s + j ≤ k := by
    have := (Nat.pow_lt_pow_iff_right (by decide)).1 hlt
    omega
  have hdvd : 2 ^ s * 2 ^ j ∣ m * 2 ^ j := by
    rw [heq, ← Nat.pow_add]
    exact Nat.dvd_mul_left_of_dvd (Nat.pow_dvd_pow 2 hk) q
  exact Nat.dvd_of_mul_dvd_mul_right (Nat.two_pow_pos j) hdvd

theorem Fits.of_dvd {n k : Nat} (hdvd : 2 ^ k ∣ n) (hlt : n < 2 ^ (53 + k)) : Fits n := by
  refine ⟨n / 2 ^ k, k, ?_, (Nat.div_mul_cancel hdvd).symm⟩
  rwa [Nat.div_lt_iff_lt_mul (Nat.two_pow_pos k), ← Nat.pow_add]

/-! ## Rounding of a significand -/

theorem shiftToTargetExponent_eq {m : Nat} {e t : Int} (a : Accuracy)
    (ht : Format.binary64.targetExponent (totalExponent m e) = t) (he : e ≤ t) :
    shiftToTargetExponent .binary64 m e a = (ExtendedMantissa.ofMantissaAndAccuracy m a >>> (t - e).toNat, t) := by
  rw [shiftToTargetExponent, ht, shiftToExponent, show e + ((t - e).toNat : Int) = t by omega]

theorem shiftToTargetExponent_self {m : Nat} {e : Int} (hm : m < 2 ^ 53) (he : -1074 ≤ e) :
    shiftToTargetExponent .binary64 m e .exact = (⟨m, false, false⟩, e) := by
  have hlog : m.log2 ≤ 52 := by
    by_cases hz : m = 0
    · simp [hz]
    · exact Nat.le_of_lt_succ ((Nat.log2_lt hz).2 hm)
  have htarget : Format.binary64.targetExponent (totalExponent m e) ≤ e := by
    rw [targetExponent_eq, totalExponent]
    omega
  rw [shiftToTargetExponent, shiftToExponent, show (_ - e).toNat = 0 by omega, Int.natCast_zero, Int.add_zero]
  rfl

/-- A significand of 53 bits or less is as it should be. -/
theorem roundWithAccuracy_self {m : Nat} {e : Int} (h : 0 < m) (hm : m < 2 ^ 53) (he : -1074 ≤ e) :
    roundWithAccuracy .binary64 .positive m e .exact = .finite .positive m e h := by
  have hrounded : ExtendedMantissa.roundedMantissa ⟨m, false, false⟩ = m := rfl
  simp only [roundWithAccuracy, shiftToTargetExponent_self hm he, hrounded, Nat.ne_of_gt h, dite_false]

/-- A significand of 53 bits or more, rounded to 53. -/
theorem roundWithAccuracy_eq {m : Nat} {e t : Int} (ht : t = m.log2 + e - 52) (hlow : -1074 ≤ t) (he : e ≤ t) :
    ∃ m' e' h, roundWithAccuracy .binary64 .positive m e .exact = .finite .positive m' e' h ∧
      (2 ^ 52 ≤ m' ∧ m' < 2 ^ 53) ∧ t ≤ e' ∧ m' * 2 ^ (e' + 1074).toNat =
        (ExtendedMantissa.ofMantissaAndAccuracy m .exact >>> (t - e).toNat).roundedMantissa * 2 ^ (t + 1074).toNat := by
  have htarget : Format.binary64.targetExponent (totalExponent m e) = t := by
    rw [targetExponent_eq, totalExponent]
    omega
  have hfirst := shiftToTargetExponent_eq .exact htarget he
  obtain ⟨hr, hr'⟩ := roundedMantissa_bounds (ExtendedMantissa.ofMantissaAndAccuracy m .exact >>> (t - e).toNat)
  rw [mantissa_shiftRight, mantissa_ofMantissaAndAccuracy, show (t - e).toNat = m.log2 - 52 by omega] at hr hr'
  obtain ⟨hq, hq'⟩ := div_two_pow_log2_bounds (m := m) (by omega)
  rw [show m.log2 - 52 = (t - e).toNat by omega] at hr hr' hq hq'
  generalize ExtendedMantissa.ofMantissaAndAccuracy m .exact >>> (t - e).toNat = em at hfirst hr hr' ⊢
  generalize hrm : em.roundedMantissa = r at hr hr' ⊢
  by_cases hsmall : r < 2 ^ 53
  · refine ⟨r, t, by omega, ?_, by omega, Int.le_refl t, rfl⟩
    have hne : r ≠ 0 := by omega
    simp only [roundWithAccuracy, hfirst, hrm, shiftToTargetExponent_self hsmall hlow, hne, dite_false]
  · -- The carry makes it a power of two, and takes it one place up.
    obtain rfl : r = 2 ^ 53 := by omega
    have hnext : Format.binary64.targetExponent (totalExponent (2 ^ 53) t) = t + 1 := by
      rw [targetExponent_eq, totalExponent, Nat.log2_two_pow]
      omega
    have hsecond := shiftToTargetExponent_eq .exact hnext (by omega)
    have hhalf : (ExtendedMantissa.ofMantissaAndAccuracy (2 ^ 53) .exact >>> (t + 1 - t).toNat).mantissa = 2 ^ 52 := by
      rw [mantissa_shiftRight, mantissa_ofMantissaAndAccuracy, show (t + 1 - t).toNat = 1 by omega]
      rfl
    refine ⟨2 ^ 52, t + 1, by decide, ?_, by decide, by omega, ?_⟩
    · simp only [roundWithAccuracy, hfirst, hrm, hsecond, hhalf]
      rfl
    · rw [show (t + 1 + 1074).toNat = (t + 1074).toNat + 1 by omega, Nat.pow_succ, Nat.pow_succ 2 52]
      ring

/-- A number without a sign that comes of `n` units by rounding, before it is packed: it has 53 bits, or it is a
multiple of the unit with fewer, and it is off by at most one part in `2 ^ 53`, and not at all if 53 bits suffice. -/
structure Rounded (n : Nat) (u : UnpackedFloat) : Prop where
  finite : ∃ m e h, u = .finite .positive m e h ∧ m < 2 ^ 53 ∧ (2 ^ 52 ≤ m ∧ -1074 ≤ e ∨ e = -1074)
  le : 2 ^ 53 * units u ≤ 2 ^ 53 * n + n
  ge : 2 ^ 53 * n ≤ 2 ^ 53 * units u + n
  exact : Fits n → units u = n

/-- Counted in units it does not matter how far a significand is shifted down. -/
theorem shiftLeft_mul_two_pow {m : Nat} {e t : Int} (ht : t ≤ e) (hlow : -1074 ≤ t) :
    m <<< (e - t).toNat * 2 ^ (t + 1074).toNat = m * 2 ^ (e + 1074).toNat := by
  rw [Nat.shiftLeft_eq, Nat.mul_assoc, ← Nat.pow_add]
  congr 2
  omega

/-- A significand of 53 bits or more keeps 53 of them, and counts a multiple of as many units as the lowest of these. -/
theorem units_roundWithAccuracy {m : Nat} {e : Int} (hlog : 52 ≤ m.log2) (he : -1074 ≤ e) :
    ∃ m' e' h, roundWithAccuracy .binary64 .positive m e .exact = .finite .positive m' e' h ∧
      (2 ^ 52 ≤ m' ∧ m' < 2 ^ 53) ∧ -1074 ≤ e' ∧ units (.finite .positive m' e' h) =
        (ExtendedMantissa.ofMantissaAndAccuracy m .exact >>> (m.log2 - 52)).roundedMantissa * 2 ^ (m.log2 - 52) *
          2 ^ (e + 1074).toNat := by
  obtain ⟨m', e', h', hround, hm', he', hunits⟩ :=
    roundWithAccuracy_eq (m := m) (e := e) (t := m.log2 + e - 52) rfl (by omega) (by omega)
  rw [show (m.log2 + e - 52 - e).toNat = m.log2 - 52 by omega] at hunits
  refine ⟨m', e', h', hround, hm', by omega, ?_⟩
  rw [units, hunits, Nat.mul_assoc, ← Nat.pow_add]
  congr 2
  omega

theorem two_pow_mul_le_of_log2 {m : Nat} (hm : m ≠ 0) (hlog : 52 ≤ m.log2) : 2 ^ 52 * 2 ^ (m.log2 - 52) ≤ m := by
  rw [← Nat.pow_add, show 52 + (m.log2 - 52) = m.log2 by omega]
  exact Nat.log2_self_le hm

/-- A significand of 53 bits or more loses those that are too many. -/
theorem rounded_roundWithAccuracy {m : Nat} {e : Int} (hm : m ≠ 0) (hlog : 52 ≤ m.log2) (he : -1074 ≤ e) :
    Rounded (m * 2 ^ (e + 1074).toNat) (roundWithAccuracy .binary64 .positive m e .exact) := by
  obtain ⟨m', e', h', hround, hm', he', hvalue⟩ := units_roundWithAccuracy hlog he
  have hbits := two_pow_mul_le_of_log2 hm hlog
  obtain ⟨hup, hdown⟩ := roundedMantissa_error m (m.log2 - 52)
  have hsame := roundedMantissa_of_dvd (m := m) (k := m.log2 - 52)
  generalize (ExtendedMantissa.ofMantissaAndAccuracy m .exact >>> (m.log2 - 52)).roundedMantissa = r
    at hvalue hup hdown hsame
  have hle : 2 ^ 53 * (r * 2 ^ (m.log2 - 52)) ≤ 2 ^ 53 * m + m := by omega
  have hge : 2 ^ 53 * m ≤ 2 ^ 53 * (r * 2 ^ (m.log2 - 52)) + m := by omega
  generalize r * 2 ^ (m.log2 - 52) = x at hvalue hle hge hsame
  rw [hround]
  refine ⟨⟨m', e', h', rfl, hm'.2, .inl ⟨hm'.1, he'⟩⟩, ?_, ?_, fun hfits => ?_⟩
  · have hscaled := Nat.mul_le_mul_right (2 ^ (e + 1074).toNat) hle
    rwa [Nat.add_mul, Nat.mul_assoc, Nat.mul_assoc, ← hvalue] at hscaled
  · have hscaled := Nat.mul_le_mul_right (2 ^ (e + 1074).toNat) hge
    rwa [Nat.add_mul, Nat.mul_assoc, Nat.mul_assoc, ← hvalue] at hscaled
  · rw [hvalue, hsame (hfits.dvd hbits)]

/-- A significand is shifted down before it is rounded: until all its bits are in above the lowest place, or until there
are 53 of them at least. -/
theorem round_cases {m : Nat} {e : Int} (hm : 0 < m) (he : -1074 ≤ e) :
    (∃ h, m * 2 ^ (e + 1074).toNat < 2 ^ 52 ∧ UnpackedFloat.round .binary64 .positive m e =
      .finite .positive (m * 2 ^ (e + 1074).toNat) (-1074) h) ∨
    ∃ m' e', m' ≠ 0 ∧ 52 ≤ m'.log2 ∧ -1074 ≤ e' ∧ m' * 2 ^ (e' + 1074).toNat = m * 2 ^ (e + 1074).toNat ∧
      UnpackedFloat.round .binary64 .positive m e = roundWithAccuracy .binary64 .positive m' e' .exact := by
  have hne : m ≠ 0 := Nat.ne_of_gt hm
  have htarget : Format.binary64.targetExponent (totalExponent m e) = max (m.log2 + e - 52 : Int) (-1074) := by
    rw [targetExponent_eq, totalExponent]
    omega
  have hpos : ∀ d, 0 < m <<< d := fun _ => Nat.shiftLeft_pos_iff.2 hm
  simp only [UnpackedFloat.round, htarget, decreaseExponent]
  rcases Int.lt_or_le (m.log2 + e - 52) (-1074) with hsmall | hlarge
  · have hlog := log2_shiftLeft hne (e + 1074).toNat
    have hlt : m <<< (e + 1074).toNat < 2 ^ 52 := (Nat.log2_lt (Nat.ne_of_gt (hpos _))).1 (by omega)
    rw [show (e - max (m.log2 + e - 52 : Int) (-1074)).toNat = (e + 1074).toNat by omega,
      show e - ((e + 1074).toNat : Int) = -1074 by omega, roundWithAccuracy_self (hpos _) (by omega) (Int.le_refl _),
      ← Nat.shiftLeft_eq]
    exact .inl ⟨hpos _, hlt, rfl⟩
  · right
    rw [show max (m.log2 + e - 52 : Int) (-1074) = m.log2 + e - 52 by omega]
    generalize hd : (e - (m.log2 + e - 52) : Int).toNat = d
    have hlog := log2_shiftLeft hne d
    have hexact := shiftLeft_mul_two_pow (m := m) (e := e) (t := e - d) (by omega) (by omega)
    rw [show (e - (e - d)).toNat = d by omega] at hexact
    exact ⟨_, _, Nat.ne_of_gt (hpos d), by omega, by omega, hexact, rfl⟩

theorem rounded_round {m : Nat} {e : Int} (hm : 0 < m) (he : -1074 ≤ e) :
    Rounded (m * 2 ^ (e + 1074).toNat) (UnpackedFloat.round .binary64 .positive m e) := by
  rcases round_cases hm he with ⟨h, hlt, hround⟩ | ⟨m', e', hne, hlog, he', hexact, hround⟩
  · have hunits : units (.finite .positive (m * 2 ^ (e + 1074).toNat) (-1074) h) = m * 2 ^ (e + 1074).toNat :=
      Nat.mul_one _
    rw [hround]
    exact ⟨⟨_, _, _, rfl, by omega, .inr rfl⟩, by rw [hunits]; omega, by rw [hunits]; omega, fun _ => hunits⟩
  · rw [hround, ← hexact]
    exact rounded_roundWithAccuracy hne hlog he'

theorem mul_two_pow_lt_infiniteUnits {m : Nat} {e : Int} (hm : m < 2 ^ 53) (he : e ≤ 971) :
    m * 2 ^ (e + 1074).toNat < infiniteUnits := by
  calc m * 2 ^ (e + 1074).toNat
    _ < 2 ^ 53 * 2 ^ (e + 1074).toNat := Nat.mul_lt_mul_of_pos_right hm (Nat.two_pow_pos _)
    _ ≤ 2 ^ 53 * 2 ^ 2045 := by gcongr <;> omega
    _ = infiniteUnits := two_pow_mul_two_pow (by decide)

/-- Of the numbers without a sign, infinity alone is not below infinity. -/
theorem Representable.units_lt_or_eq {u : UnpackedFloat} (h : Representable u) :
    units u < infiniteUnits ∨ u = .infinity .positive := by
  cases h with
  | zero => exact .inl infiniteUnits_pos
  | subnormal m h hm => exact .inl (mul_two_pow_lt_infiniteUnits (by omega) (by decide))
  | normal m e h hm he => exact .inl (mul_two_pow_lt_infiniteUnits hm.2 he.2)
  | infinity => exact .inr rfl

theorem eq_infinity_of_units_eq {u : UnpackedFloat} (h : Representable u) (hu : units u = infiniteUnits) :
    u = .infinity .positive := h.units_lt_or_eq.resolve_left (Nat.not_lt.2 hu.ge)

/-- What is beyond the largest number is packed as infinity. -/
theorem units_pack_of_rounded {n : Nat} {u : UnpackedFloat} (h : Rounded n u) :
    units (Float.Model.pack u).unpack = min (units u) infiniteUnits := by
  obtain ⟨m, e, hpos, rfl, hm, hcanonical⟩ := h.finite
  rcases Int.lt_or_le 971 e with hbig | hfits
  · have hlow : 2 ^ 52 ≤ m := by omega
    have hbias : (Format.binary64.exponentBias : Int) = 1023 := rfl
    have hbits : (Format.binary64.mantissaBitsWithoutImplicit : Int) = 52 := rfl
    have hpack : UnpackedFloat.pack .binary64 (.finite .positive m e hpos) = packedInfinity .binary64 .positive := by
      simp only [UnpackedFloat.pack, hbias, hbits]
      rw [if_pos (by omega)]
    have hbeyond : infiniteUnits ≤ units (.finite .positive m e hpos) := by
      calc infiniteUnits
        _ = 2 ^ 52 * 2 ^ 2046 := (two_pow_mul_two_pow (by decide)).symm
        _ ≤ m * 2 ^ (e + 1074).toNat := by gcongr <;> omega
    change units (UnpackedFloat.unpack .binary64 (UnpackedFloat.pack .binary64 _)) = _
    rw [hpack, Nat.min_eq_right hbeyond]
    rfl
  · have hrep : Representable (.finite .positive m e hpos) := by
      rcases hcanonical with hfull | rfl
      · exact .normal m e hpos ⟨hfull.1, hm⟩ ⟨hfull.2, hfits⟩
      · rcases Nat.lt_or_ge m (2 ^ 52) with hlt | hge
        · exact .subnormal m hpos hlt
        · exact .normal m _ hpos ⟨hge, hm⟩ ⟨Int.le_refl _, hfits⟩
    rw [unpack_pack hrep, units, Nat.min_eq_left (mul_two_pow_lt_infiniteUnits hm hfits).le]

/-! ## Addition -/

/-- The sum of two positive numbers is rounded from their exact sum. -/
theorem add_eq_round {m₁ m₂ : Nat} {e₁ e₂ : Int} (h₁ : 0 < m₁) (h₂ : 0 < m₂) (he₁ : -1074 ≤ e₁) (he₂ : -1074 ≤ e₂) :
    ∃ m e, 0 < m ∧ -1074 ≤ e ∧
      m * 2 ^ (e + 1074).toNat = m₁ * 2 ^ (e₁ + 1074).toNat + m₂ * 2 ^ (e₂ + 1074).toNat ∧
      UnpackedFloat.add .binary64 (.finite .positive m₁ e₁ h₁) (.finite .positive m₂ e₂ h₂) =
        UnpackedFloat.round .binary64 .positive m e := by
  have hpos : 0 < m₁ <<< (e₁ - min e₁ e₂).toNat + m₂ <<< (e₂ - min e₁ e₂).toNat :=
    Nat.add_pos_left (Nat.shiftLeft_pos_iff.2 h₁) _
  refine ⟨_, min e₁ e₂, hpos, by omega, ?_, ?_⟩
  · rw [Nat.add_mul, shiftLeft_mul_two_pow (Int.min_le_left ..) (by omega),
      shiftLeft_mul_two_pow (Int.min_le_right ..) (by omega)]
  · simp only [UnpackedFloat.add, decreaseExponent, UnpackedFloat.normalize, Sign.apply]
    rw [← Int.natCast_add, Int.compare_eq_gt.2 (Int.natCast_pos.2 hpos), Int.toNat_natCast]

/-- A sum is exact because one of the numbers is zero, or infinite because one of them is, or rounded. -/
theorem add_cases {u v : UnpackedFloat} (hu : Representable u) (hv : Representable v) :
    (∃ x, Representable x ∧ units x = units u + units v ∧
      (Float.Model.pack (UnpackedFloat.add .binary64 u v)).unpack = x) ∨
    (infiniteUnits ≤ units u + units v ∧
      (Float.Model.pack (UnpackedFloat.add .binary64 u v)).unpack = .infinity .positive) ∨
    ∃ m e, 0 < m ∧ -1074 ≤ e ∧ m * 2 ^ (e + 1074).toNat = units u + units v ∧
      UnpackedFloat.add .binary64 u v = UnpackedFloat.round .binary64 .positive m e := by
  rcases hu.cases with rfl | rfl | ⟨m₁, e₁, h₁, rfl, he₁⟩
  · exact .inl ⟨v, hv, (Nat.zero_add _).symm, by rw [zero_add_of_unsigned hv.unsigned, unpack_pack hv]⟩
  · refine .inr (.inl ⟨Nat.le_add_right .., ?_⟩)
    rw [infinity_add_of_unsigned hv.unsigned, unpack_pack .infinity]
  · rcases hv.cases with rfl | rfl | ⟨m₂, e₂, h₂, rfl, he₂⟩
    · exact .inl ⟨_, hu, rfl, unpack_pack hu⟩
    · exact .inr (.inl ⟨Nat.le_add_left .., unpack_pack .infinity⟩)
    · exact .inr (.inr (add_eq_round h₁ h₂ he₁ he₂))

/-- What a sum of `n` units comes to. Beyond the largest number it is infinite, however far beyond. -/
structure RoundsTo (n r : Nat) : Prop where
  le : 2 ^ 53 * r ≤ 2 ^ 53 * n + n
  ge : 2 ^ 53 * n ≤ 2 ^ 53 * r + n ∨ r = infiniteUnits
  exact : Fits n → n < infiniteUnits → r = n

theorem RoundsTo.of_eq {n r : Nat} (h : r = n) : RoundsTo n r := ⟨by omega, .inl (by omega), fun _ _ => h⟩

theorem RoundsTo.of_infinite {n : Nat} (h : infiniteUnits ≤ n) : RoundsTo n infiniteUnits :=
  ⟨by omega, .inr rfl, fun _ hlt => absurd hlt (by omega)⟩

theorem RoundsTo.of_rounded {n : Nat} {u : UnpackedFloat} (h : Rounded n u) :
    RoundsTo n (units (Float.Model.pack u).unpack) := by
  have hle := h.le
  have hge := h.ge
  rw [units_pack_of_rounded h]
  refine ⟨by omega, by omega, fun hfits hlt => ?_⟩
  rw [h.exact hfits, Nat.min_eq_left hlt.le]

theorem roundsTo_add {u v : UnpackedFloat} (hu : Representable u) (hv : Representable v) :
    RoundsTo (units u + units v) (units (Float.Model.pack (UnpackedFloat.add .binary64 u v)).unpack) := by
  rcases add_cases hu hv with ⟨x, -, hunits, hsum⟩ | ⟨hlarge, hsum⟩ | ⟨m, e, hm, he, hunits, hsum⟩
  · rw [hsum]
    exact .of_eq hunits
  · rw [hsum]
    exact .of_infinite hlarge
  · rw [hsum, ← hunits]
    exact .of_rounded (rounded_round hm he)

end StaffIndex.Binary64
