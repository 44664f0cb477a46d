import StaffIndex.Proofs.Binary64.Nearest

/-!
# Sums of many numbers without a sign

The numbers are added up one by one, and each sum is rounded.

- Each rounding takes the value of the sum up or down by one part in `2 ^ 53` at most (`value_foldl_add_le`,
  `le_value_foldl_add`).
- If the exact sum and the numbers are short enough, nothing is rounded, and the order of the numbers does not matter
  (`AddExactly.foldl_add_eq`).
-/

namespace StaffIndex.Binary64

open Float.Model Float.Model.UnpackedFloat

/-! ## Values -/

/-- The smallest positive number. -/
def smallest : ℚ := (2 ^ 1074)⁻¹

theorem smallest_pos : 0 < smallest := by
  rw [smallest, inv_pos]
  exact pow_pos two_pos 1074

/-- The value of a number without a sign, where infinity counts as `2 ^ 1024`. -/
def value (x : Float) : ℚ := units x.toModel.unpack * smallest

theorem infiniteUnits_mul_smallest : infiniteUnits * smallest = 2 ^ 1024 := by
  have hpow : infiniteUnits = 2 ^ 1024 * 2 ^ 1074 := (two_pow_mul_two_pow (by decide)).symm
  rw [hpow, smallest, Nat.cast_mul, Nat.cast_pow, Nat.cast_pow, Nat.cast_two,
    mul_inv_cancel_right₀ (pow_ne_zero _ two_ne_zero)]

/-- Rounding is off by at most one part in `2 ^ 53`. -/
def roundoff : ℚ := 1 / 2 ^ 53

namespace NonNegative

variable {x y : Float}

theorem value_lt_iff (hx : NonNegative x) (hy : NonNegative y) :
    value x < value y ↔ x.toBits.toNat < y.toBits.toNat := by
  rw [value, value, mul_lt_mul_iff_left₀ smallest_pos, Nat.cast_lt, hx.units_lt_iff hy]

theorem roundsTo_add (hx : NonNegative x) (hy : NonNegative y) :
    RoundsTo (units x.toModel.unpack + units y.toModel.unpack) (units (x + y).toModel.unpack) :=
  Binary64.roundsTo_add hx.representable hy.representable

theorem value_add_le (hx : NonNegative x) (hy : NonNegative y) :
    value (x + y) ≤ (1 + roundoff) * (value x + value y) := by
  have hle : (2 ^ 53 * units (x + y).toModel.unpack : ℚ) ≤
      2 ^ 53 * (units x.toModel.unpack + units y.toModel.unpack) + (units x.toModel.unpack + units y.toModel.unpack) := by
    exact_mod_cast (hx.roundsTo_add hy).le
  rw [value, value, value, ← add_mul, ← mul_assoc]
  refine mul_le_mul_of_nonneg_right ?_ smallest_pos.le
  rw [roundoff]
  linarith

theorem le_value_add (hx : NonNegative x) (hy : NonNegative y) :
    (1 - roundoff) * (value x + value y) ≤ value (x + y) ∨ value (x + y) = 2 ^ 1024 := by
  rcases (hx.roundsTo_add hy).ge with hge | hinf
  · left
    have hge' : (2 ^ 53 * (units x.toModel.unpack + units y.toModel.unpack) : ℚ) ≤
        2 ^ 53 * units (x + y).toModel.unpack + (units x.toModel.unpack + units y.toModel.unpack) := by
      exact_mod_cast hge
    rw [value, value, value, ← add_mul, ← mul_assoc]
    refine mul_le_mul_of_nonneg_right ?_ smallest_pos.le
    rw [roundoff]
    linarith
  · right
    rw [value, hinf, infiniteUnits_mul_smallest]

/-- A sum that has become infinite stays so. -/
theorem value_add_of_infinite (hx : NonNegative x) (hy : NonNegative y) (h : value x = 2 ^ 1024) :
    value (x + y) = 2 ^ 1024 := by
  rw [value, ← infiniteUnits_mul_smallest, mul_left_inj' smallest_pos.ne', Nat.cast_inj] at h
  have hinf : x.toModel.unpack = .infinity .positive := eq_infinity_of_units_eq hx.representable h
  have hsum : (x + y).toModel.unpack = .infinity .positive := by
    change (Float.Model.pack (UnpackedFloat.add .binary64 x.toModel.unpack _)).unpack = _
    rw [hinf, infinity_add_of_unsigned hy, unpack_pack .infinity]
  rw [value, hsum, units, infiniteUnits_mul_smallest]

end NonNegative

/-! ## Sums of many -/

theorem roundoff_nonneg : 0 ≤ roundoff := by
  rw [roundoff]
  norm_num

theorem one_sub_roundoff_nonneg : 0 ≤ 1 - roundoff := by
  rw [roundoff]
  norm_num

theorem value_nonneg (x : Float) : 0 ≤ value x := mul_nonneg (Nat.cast_nonneg _) smallest_pos.le

theorem sum_value_nonneg (l : List Float) : 0 ≤ (l.map value).sum :=
  List.sum_nonneg fun v hv => by
    obtain ⟨y, -, rfl⟩ := List.mem_map.1 hv
    exact value_nonneg y

variable {x : Float} {l : List Float}

theorem nonNegative_foldl_add (hx : NonNegative x) (hl : ∀ y ∈ l, NonNegative y) :
    NonNegative (l.foldl (· + ·) x) := by
  induction l generalizing x with
  | nil => exact hx
  | cons y l ih =>
    rw [List.forall_mem_cons] at hl
    exact ih (hx.add hl.1) hl.2

theorem value_foldl_add_of_infinite (hx : NonNegative x) (hl : ∀ y ∈ l, NonNegative y) (h : value x = 2 ^ 1024) :
    value (l.foldl (· + ·) x) = 2 ^ 1024 := by
  induction l generalizing x with
  | nil => exact h
  | cons y l ih =>
    rw [List.forall_mem_cons] at hl
    exact ih (hx.add hl.1) hl.2 (hx.value_add_of_infinite hl.1 h)

/-- Each addition of a sum may add one part in `2 ^ 53`. -/
theorem value_foldl_add_le (hx : NonNegative x) (hl : ∀ y ∈ l, NonNegative y) :
    value (l.foldl (· + ·) x) ≤ (1 + roundoff) ^ l.length * (value x + (l.map value).sum) := by
  induction l generalizing x with
  | nil => simp
  | cons y l ih =>
    rw [List.forall_mem_cons] at hl
    have hstep := hx.value_add_le hl.1
    have hrest := sum_value_nonneg l
    have hu := roundoff_nonneg
    calc value (l.foldl (· + ·) (x + y))
      _ ≤ (1 + roundoff) ^ l.length * (value (x + y) + (l.map value).sum) := ih (hx.add hl.1) hl.2
      _ ≤ (1 + roundoff) ^ l.length * ((1 + roundoff) * (value x + value y + (l.map value).sum)) := by
        gcongr
        nlinarith
      _ = (1 + roundoff) ^ (y :: l).length * (value x + ((y :: l).map value).sum) := by
        rw [List.length_cons, pow_succ, List.map_cons, List.sum_cons]
        ring

/-- Or take one away, unless the sum becomes infinite. -/
theorem le_value_foldl_add (hx : NonNegative x) (hl : ∀ y ∈ l, NonNegative y) :
    (1 - roundoff) ^ l.length * (value x + (l.map value).sum) ≤ value (l.foldl (· + ·) x) ∨
      value (l.foldl (· + ·) x) = 2 ^ 1024 := by
  induction l generalizing x with
  | nil => simp
  | cons y l ih =>
    rw [List.forall_mem_cons] at hl
    have hu := one_sub_roundoff_nonneg
    have hrest := sum_value_nonneg l
    rcases hx.le_value_add hl.1 with hstep | hinf
    · refine (ih (hx.add hl.1) hl.2).imp_left fun hle => ?_
      calc (1 - roundoff) ^ (y :: l).length * (value x + ((y :: l).map value).sum)
        _ = (1 - roundoff) ^ l.length * ((1 - roundoff) * (value x + value y + (l.map value).sum)) := by
          rw [List.length_cons, pow_succ, List.map_cons, List.sum_cons]
          ring
        _ ≤ (1 - roundoff) ^ l.length * (value (x + y) + (l.map value).sum) := by
          have hroundoff := roundoff_nonneg
          gcongr
          nlinarith
        _ ≤ value (l.foldl (· + ·) (x + y)) := hle
    · right
      rw [List.foldl_cons]
      exact value_foldl_add_of_infinite (hx.add hl.1) hl.2 hinf

/-! ## Sums without rounding -/

/-- The sum in units. -/
def totalUnits (l : List Float) : Nat := (l.map fun x => units x.toModel.unpack).sum

/-- No sum of some of the numbers is rounded: they are multiples of `2 ^ k` units, and all together are less than
`2 ^ (53 + k)` units, and finite. -/
def AddExactly (l : List Float) : Prop :=
  ∃ k, (∀ x ∈ l, 2 ^ k ∣ units x.toModel.unpack) ∧ totalUnits l < 2 ^ (53 + k) ∧ totalUnits l < infiniteUnits

theorem AddExactly.of_perm {l l' : List Float} (h : AddExactly l) (hperm : l.Perm l') : AddExactly l' := by
  have htotal : totalUnits l = totalUnits l' := (hperm.map _).sum_eq
  obtain ⟨k, hdvd, hlt, hfinite⟩ := h
  exact ⟨k, fun x hx => hdvd x (hperm.mem_iff.2 hx), htotal ▸ hlt, htotal ▸ hfinite⟩

theorem units_foldl_add {k : Nat} (hx : NonNegative x) (hl : ∀ y ∈ l, NonNegative y)
    (hdvd : 2 ^ k ∣ units x.toModel.unpack) (hdvd' : ∀ y ∈ l, 2 ^ k ∣ units y.toModel.unpack)
    (hlt : units x.toModel.unpack + totalUnits l < 2 ^ (53 + k))
    (hfinite : units x.toModel.unpack + totalUnits l < infiniteUnits) :
    units (l.foldl (· + ·) x).toModel.unpack = units x.toModel.unpack + totalUnits l := by
  induction l generalizing x with
  | nil => rfl
  | cons y l ih =>
    rw [List.forall_mem_cons] at hl hdvd'
    have htotal : units x.toModel.unpack + totalUnits (y :: l) =
        units x.toModel.unpack + units y.toModel.unpack + totalUnits l := by
      rw [totalUnits, List.map_cons, List.sum_cons, ← Nat.add_assoc, totalUnits]
    rw [htotal] at hlt hfinite ⊢
    have hstep : units (x + y).toModel.unpack = units x.toModel.unpack + units y.toModel.unpack :=
      (hx.roundsTo_add hl.1).exact (.of_dvd (Nat.dvd_add hdvd hdvd'.1) (by omega)) (by omega)
    rw [← hstep] at hlt hfinite ⊢
    exact ih (hx.add hl.1) hl.2 (hstep ▸ Nat.dvd_add hdvd hdvd'.1) hdvd'.2 hlt hfinite

theorem AddExactly.units_foldl (h : AddExactly l) (hl : ∀ y ∈ l, NonNegative y) :
    units (l.foldl (· + ·) 0.0).toModel.unpack = totalUnits l := by
  have hzero : units (0.0 : Float).toModel.unpack = 0 := rfl
  obtain ⟨k, hdvd, hlt, hfinite⟩ := h
  rw [units_foldl_add .zero hl (hzero ▸ Nat.dvd_zero _) hdvd (by omega) (by omega), hzero, Nat.zero_add]

theorem AddExactly.foldl_add_eq {l' : List Float} (h : AddExactly l) (hperm : l.Perm l')
    (hl : ∀ y ∈ l, NonNegative y) : l.foldl (· + ·) 0.0 = l'.foldl (· + ·) 0.0 := by
  have hl' : ∀ y ∈ l', NonNegative y := fun y hy => hl y (hperm.mem_iff.2 hy)
  refine (nonNegative_foldl_add .zero hl).eq_of_units_eq (nonNegative_foldl_add .zero hl') ?_
  rw [h.units_foldl hl, (h.of_perm hperm).units_foldl hl']
  exact (hperm.map _).sum_eq

end StaffIndex.Binary64
