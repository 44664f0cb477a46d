import StaffIndex.Proofs.Binary64.NonNegative

/-!
# Numbers without a sign, counted in units

Every number without a sign is a multiple of the smallest positive one (`units`). The multiples are ordered as the bit
patterns (`units_lt_iff`), and no two numbers without a sign are the same multiple (`eq_of_units_eq`).
-/

namespace StaffIndex.Binary64

open Float.Model Float.Model.UnpackedFloat

/-- The number that would come after the largest one. -/
def infiniteUnits : Nat := 2 ^ 2098

theorem infiniteUnits_pos : 0 < infiniteUnits := by
  unfold infiniteUnits
  positivity

theorem two_pow_mul_two_pow {j k : Nat} (h : j + k = 2098) : 2 ^ j * 2 ^ k = infiniteUnits := by
  rw [← Nat.pow_add, infiniteUnits]
  exact congrArg (2 ^ ·) h

/-- How many times the smallest positive number it is, for a number without a sign. -/
def units : UnpackedFloat → Nat
  | .finite _ m e _ => m * 2 ^ (e + 1074).toNat
  | .infinity _ => infiniteUnits
  | .zero _ => 0
  | .notANumber => 0

/-- The same, read off the bit pattern: from the second exponent on, each one has numbers twice as far apart as the
one before. -/
def unitsOfBits (b : Nat) : Nat := if b < 2 ^ 52 then b else (2 ^ 52 + b % 2 ^ 52) * 2 ^ (b / 2 ^ 52 - 1)

theorem strictMono_unitsOfBits : StrictMono unitsOfBits := by
  refine strictMono_nat_of_lt_succ fun b => ?_
  rcases Nat.lt_trichotomy (b + 1) (2 ^ 52) with hlow | heq | hhigh
  · rw [unitsOfBits, unitsOfBits, if_pos (by omega), if_pos hlow]
    exact Nat.lt_succ_self b
  · rw [unitsOfBits, unitsOfBits, if_pos (by omega), if_neg (by omega), heq]
    omega
  · rw [unitsOfBits, unitsOfBits, if_neg (by omega), if_neg (by omega)]
    have hpos : 0 < 2 ^ (b / 2 ^ 52 - 1) := Nat.two_pow_pos _
    by_cases hlast : b % 2 ^ 52 = 2 ^ 52 - 1
    · -- The last number with this exponent is one step away from the first one with the next.
      have hmod : (b + 1) % 2 ^ 52 = 0 := by omega
      have hdiv : (b + 1) / 2 ^ 52 - 1 = b / 2 ^ 52 - 1 + 1 := by omega
      rw [hlast, hmod, hdiv, Nat.pow_succ 2 (b / 2 ^ 52 - 1)]
      omega
    · have hmod : (b + 1) % 2 ^ 52 = b % 2 ^ 52 + 1 := by omega
      have hdiv : (b + 1) / 2 ^ 52 = b / 2 ^ 52 := by omega
      rw [hmod, hdiv]
      exact Nat.mul_lt_mul_of_pos_right (by omega) hpos

/-! ## Bit patterns -/

/-- The numbers without a sign as they are unpacked. -/
inductive Representable : UnpackedFloat → Prop
  | zero : Representable (.zero .positive)
  | subnormal (m : Nat) (h : 0 < m) (hm : m < 2 ^ 52) : Representable (.finite .positive m (-1074) h)
  | normal (m : Nat) (e : Int) (h : 0 < m) (hm : 2 ^ 52 ≤ m ∧ m < 2 ^ 53) (he : -1074 ≤ e ∧ e ≤ 971) :
    Representable (.finite .positive m e h)
  | infinity : Representable (.infinity .positive)

theorem Representable.unsigned {u : UnpackedFloat} (h : Representable u) : Unsigned u := by
  cases h <;> rfl

theorem Representable.cases {u : UnpackedFloat} (h : Representable u) :
    u = .zero .positive ∨ u = .infinity .positive ∨ ∃ m e h, u = .finite .positive m e h ∧ -1074 ≤ e := by
  cases h with
  | zero => exact .inl rfl
  | subnormal m h hm => exact .inr (.inr ⟨m, _, h, rfl, Int.le_refl _⟩)
  | normal m e h hm he => exact .inr (.inr ⟨m, e, h, rfl, he.1⟩)
  | infinity => exact .inr (.inl rfl)

theorem toNat_append_lt {v w : Nat} (x : BitVec v) (y : BitVec w) : (x ++ y).toNat = x.toNat * 2 ^ w + y.toNat := by
  rw [BitVec.toNat_append, ← Nat.shiftLeft_add_eq_or_of_lt y.isLt, Nat.shiftLeft_eq]

/-- A pattern is the sign, the exponent and the significand, one after the other. -/
theorem toNat_packComponents (s : Sign) (e : BitVec 11) (m : BitVec 52) :
    (packComponents .binary64 s e m).toNat = (s.toBitVec.toNat * 2 ^ 11 + e.toNat) * 2 ^ 52 + m.toNat := by
  rw [packComponents, toNat_append_lt, toNat_append_lt]

theorem exists_eq_packComponents (b : BitVec 64) : ∃ s e m, b = packComponents .binary64 s e m := by
  refine ⟨Sign.ofBitVec (@unpackSign .binary64 b), @unpackExponent .binary64 b, @unpackMantissa .binary64 b,
    BitVec.eq_of_toNat_eq ?_⟩
  have hsign : (Sign.ofBitVec (@unpackSign .binary64 b)).toBitVec = @unpackSign .binary64 b := by
    generalize @unpackSign .binary64 b = v
    revert v
    decide
  have hs : (@unpackSign .binary64 b).toNat = b.toNat / 2 ^ 63 % 2 := by
    simp [unpackSign, Nat.shiftRight_eq_div_pow]
  have he : (@unpackExponent .binary64 b).toNat = b.toNat / 2 ^ 52 % 2 ^ 11 := by
    simp [unpackExponent, Nat.shiftRight_eq_div_pow]
  have hm : (@unpackMantissa .binary64 b).toNat = b.toNat % 2 ^ 52 := by
    simp [unpackMantissa]
  have hlt := b.isLt
  rw [toNat_packComponents, hsign, hs, he, hm]
  omega

theorem unitsOfBits_of_fields {e m : Nat} (hm : m < 2 ^ 52) :
    unitsOfBits (e * 2 ^ 52 + m) = if e = 0 then m else (2 ^ 52 + m) * 2 ^ (e - 1) := by
  rw [unitsOfBits]
  by_cases he : e = 0
  · rw [if_pos (by omega), if_pos he, he, Nat.zero_mul, Nat.zero_add]
  · rw [if_neg (by omega), if_neg he, show (e * 2 ^ 52 + m) % 2 ^ 52 = m by omega,
      show (e * 2 ^ 52 + m) / 2 ^ 52 = e by omega]

/-- What a pattern without a sign is unpacked to. -/
theorem representable_unpack_packComponents {s : Sign} {e : BitVec 11} {m : BitVec 52}
    (h : Unsigned (UnpackedFloat.unpack .binary64 (packComponents .binary64 s e m))) : s = .positive ∧
      Representable (UnpackedFloat.unpack .binary64 (packComponents .binary64 s e m)) ∧
      units (UnpackedFloat.unpack .binary64 (packComponents .binary64 s e m)) =
        unitsOfBits (e.toNat * 2 ^ 52 + m.toNat) := by
  have hbias : (Format.binary64.exponentBias : Int) = 1023 := rfl
  have hbits : (Format.binary64.mantissaBitsWithoutImplicit : Int) = 52 := rfl
  have hm : m.toNat < 2 ^ 52 := m.isLt
  have he : e.toNat < 2 ^ 11 := e.isLt
  rw [unitsOfBits_of_fields hm]
  simp only [UnpackedFloat.unpack, unpackMantissa_packComponents, unpackExponent_packComponents,
    unpackSign_packComponents, Sign.ofBitVec_toBitVec, hbias, hbits] at h ⊢
  split at h
  · next htop =>
    split at h
    · next hzero =>
      cases (h : s = .positive)
      refine ⟨rfl, ?_⟩
      rw [if_pos htop, if_pos hzero, htop, hzero]
      refine ⟨.infinity, ?_⟩
      rw [if_neg (by decide), show (0#52).toNat = 0 from rfl, show (-1#11).toNat - 1 = 2046 from rfl, Nat.add_zero,
        two_pow_mul_two_pow (by decide), units]
    · exact h.elim
  · next htop =>
    split at h
    · next hlow =>
      split at h
      · next hzero =>
        cases (h : s = .positive)
        refine ⟨rfl, ?_⟩
        rw [if_neg htop, if_pos hlow, dif_pos hzero, hlow, hzero]
        exact ⟨.zero, rfl⟩
      · next hzero =>
        cases (h : s = .positive)
        refine ⟨rfl, ?_⟩
        rw [if_neg htop, if_pos hlow, dif_neg hzero]
        subst hlow
        exact ⟨.subnormal m.toNat _ hm, Nat.mul_one _⟩
    · next hlow =>
      cases (h : s = .positive)
      refine ⟨rfl, ?_⟩
      rw [if_neg htop, if_neg hlow]
      have hpos : e.toNat ≠ 0 := fun hz => hlow (BitVec.eq_of_toNat_eq hz)
      have hle : e.toNat ≠ 2047 := fun hall => htop (BitVec.eq_of_toNat_eq hall)
      have happend : (1#1 ++ m).toNat = 2 ^ 52 + m.toNat := toNat_append_lt 1#1 m
      refine ⟨.normal _ _ _ (by omega) (by omega), ?_⟩
      rw [units, happend, if_neg hpos, show ((e.toNat : Int) - (1023 + 52) + 1074).toNat = e.toNat - 1 by omega]

theorem unpack_pack_subnormal {m : Nat} (h : 0 < m) (hm : m < 2 ^ 52) :
    (Float.Model.pack (.finite .positive m (-1074) h)).unpack = .finite .positive m (-1074) h := by
  have hlog : m.log2 < 52 := (Nat.log2_lt (Nat.ne_of_gt h)).2 hm
  have hbits : Format.binary64.mantissaBits = 53 := rfl
  have hval : (BitVec.ofNat 52 m).toNat = m := Nat.mod_eq_of_lt hm
  have hne : BitVec.ofNat 52 m ≠ 0#52 := fun hz => Nat.ne_of_gt h (hval.symm.trans (congrArg BitVec.toNat hz))
  have hpack : UnpackedFloat.pack .binary64 (.finite .positive m (-1074) h) =
      packComponents .binary64 .positive 0#11 (BitVec.ofNat 52 m) := by
    simp only [UnpackedFloat.pack, hbits]
    rw [if_neg (by decide), if_neg (by omega)]
  change UnpackedFloat.unpack .binary64 (UnpackedFloat.pack .binary64 _) = _
  rw [hpack]
  simp only [UnpackedFloat.unpack, unpackMantissa_packComponents, unpackExponent_packComponents,
    unpackSign_packComponents, Sign.ofBitVec_toBitVec, hne, hval]
  rfl

/-- Numbers without a sign survive being packed. -/
theorem unpack_pack {u : UnpackedFloat} (h : Representable u) : (Float.Model.pack u).unpack = u := by
  cases h with
  | zero => rfl
  | subnormal m h hm => exact unpack_pack_subnormal h hm
  | normal m e h hm he => exact unpack_pack_full ⟨m, e, h, rfl, hm, Int.le_refl e, Int.le_refl e⟩ he.1 he.2
  | infinity => rfl

/-! ## Addition of zero, and in the other order -/

theorem zero_add_of_unsigned {u : UnpackedFloat} (h : Unsigned u) :
    UnpackedFloat.add .binary64 (.zero .positive) u = u := by
  cases u with
  | notANumber => exact h.elim
  | infinity s => rfl
  | zero s => cases h; rfl
  | finite s m e hm => rfl

theorem infinity_add_of_unsigned {u : UnpackedFloat} (h : Unsigned u) :
    UnpackedFloat.add .binary64 (.infinity .positive) u = .infinity .positive := by
  cases u with
  | notANumber => exact h.elim
  | infinity s => cases h; rfl
  | zero s => rfl
  | finite s m e hm => rfl

theorem add_comm_of_unsigned {u v : UnpackedFloat} (hu : Unsigned u) (hv : Unsigned v) :
    UnpackedFloat.add .binary64 u v = UnpackedFloat.add .binary64 v u := by
  cases u with
  | notANumber => exact hu.elim
  | infinity s => cases v <;> cases hu <;> cases hv <;> rfl
  | zero s => cases v <;> cases hu <;> cases hv <;> rfl
  | finite s m e hm =>
    cases hu
    cases v with
    | notANumber => exact hv.elim
    | infinity t => rfl
    | zero t => rfl
    | finite t m' e' hm' =>
      cases hv
      simp only [UnpackedFloat.add, decreaseExponent]
      rw [Int.min_comm, Int.add_comm]

/-! ## Numbers -/

namespace NonNegative

variable {x y : Float}

theorem representable (h : NonNegative x) : Representable x.toModel.unpack := by
  obtain ⟨s, e, m, hb⟩ := exists_eq_packComponents x.toModel.toBits.toBitVec
  rw [NonNegative, Float.Model.unpack, hb] at h
  rw [Float.Model.unpack, hb]
  exact (representable_unpack_packComponents h).2.1

/-- Without a sign, the bit pattern is below that of minus zero, and it tells how many units the number has. -/
theorem units_eq (h : NonNegative x) :
    x.toBits.toNat < 2 ^ 63 ∧ units x.toModel.unpack = unitsOfBits x.toBits.toNat := by
  obtain ⟨s, e, m, hb⟩ := exists_eq_packComponents x.toModel.toBits.toBitVec
  have hbits : x.toBits.toNat = (packComponents .binary64 s e m).toNat := congrArg BitVec.toNat hb
  rw [NonNegative, Float.Model.unpack, hb] at h
  obtain ⟨rfl, -, hunits⟩ := representable_unpack_packComponents h
  have hzero : Sign.positive.toBitVec.toNat = 0 := rfl
  have he : e.toNat < 2 ^ 11 := e.isLt
  have hm : m.toNat < 2 ^ 52 := m.isLt
  rw [toNat_packComponents, hzero, Nat.zero_mul, Nat.zero_add] at hbits
  rw [hbits, Float.Model.unpack, hb]
  exact ⟨by omega, hunits⟩

theorem units_lt_iff (hx : NonNegative x) (hy : NonNegative y) :
    units x.toModel.unpack < units y.toModel.unpack ↔ x.toBits.toNat < y.toBits.toNat := by
  rw [hx.units_eq.2, hy.units_eq.2, strictMono_unitsOfBits.lt_iff_lt]

theorem eq_of_units_eq (hx : NonNegative x) (hy : NonNegative y)
    (h : units x.toModel.unpack = units y.toModel.unpack) : x = y := by
  rw [hx.units_eq.2, hy.units_eq.2] at h
  have hbits : x.toModel.toBits = y.toModel.toBits := UInt64.toNat_inj.1 (strictMono_unitsOfBits.injective h)
  obtain ⟨⟨a, ha⟩⟩ := x
  obtain ⟨⟨b, hb⟩⟩ := y
  cases hbits
  rfl

/-- Adding to zero changes nothing. -/
theorem zero_add (h : NonNegative x) : 0.0 + x = x := by
  have hadd : (0.0 + x).toModel.unpack = x.toModel.unpack := by
    change (Float.Model.pack (UnpackedFloat.add .binary64 (.zero .positive) _)).unpack = _
    rw [zero_add_of_unsigned h, unpack_pack h.representable]
  exact (zero.add h).eq_of_units_eq h (congrArg units hadd)

theorem add_comm (hx : NonNegative x) (hy : NonNegative y) : x + y = y + x :=
  congrArg (fun u => Float.ofModel (.pack u)) (add_comm_of_unsigned hx hy)

end NonNegative

end StaffIndex.Binary64
