import StaffIndex.Proofs.Binary64.RoundedSums

/-!
# Sums grow with what is added up

A computed sum is, counted in units, the nearest number to the exact one (`nearest_add`). So it does not become smaller
if one of the two numbers becomes larger (`NonNegative.value_add_le_add`), and it is no smaller than either of them
(`NonNegative.value_le_add`). A sum of many numbers is no smaller than that of some of them in the same order
(`value_foldl_add_le_of_sublist`).

That `r` is nearest to `n` and `r'` to a larger `n'` is enough for `r ≤ r'` (`Nearest.le_of_lt`): otherwise `n` would lie
above the middle of the two, and `n'` below it. How ties are broken does not matter.
-/

namespace StaffIndex.Binary64

open Float.Model Float.Model.UnpackedFloat

/-! ## The nearest number -/

/-- How far apart two numbers of units are. -/
def distance (m n : Nat) : Nat := (m - n) + (n - m)

/-- No number of units of 53 bits is closer to `n`. -/
def Closest (n r : Nat) : Prop := ∀ q, Fits q → distance r n ≤ distance q n

/-- The same among the numbers up to infinity, which counts as the one after the largest. -/
structure Nearest (n r : Nat) : Prop where
  fits : Fits r
  le : r ≤ infiniteUnits
  closest : ∀ q, Fits q → q ≤ infiniteUnits → distance r n ≤ distance q n

theorem fits_infiniteUnits : Fits infiniteUnits := ⟨1, 2098, by decide, by rw [infiniteUnits, Nat.one_mul]⟩

theorem Closest.refl (n : Nat) : Closest n n := by
  intro q _
  unfold distance
  omega

/-- What is beyond the largest number becomes infinite, and it was closer to `n` than infinity. -/
theorem Closest.nearest {n r : Nat} (h : Closest n r) (hr : Fits r) : Nearest n (min r infiniteUnits) := by
  rcases Nat.le_total r infiniteUnits with hle | hge
  · rw [Nat.min_eq_left hle]
    exact ⟨hr, hle, fun q hq _ => h q hq⟩
  · rw [Nat.min_eq_right hge]
    refine ⟨fits_infiniteUnits, Nat.le_refl _, fun q hq hle => ?_⟩
    have hinf := h infiniteUnits fits_infiniteUnits
    have hother := h q hq
    unfold distance at hinf hother ⊢
    omega

theorem Nearest.of_fits {n : Nat} (h : Fits n) (hle : n ≤ infiniteUnits) : Nearest n n :=
  ⟨h, hle, fun q hq _ => Closest.refl n q hq⟩

theorem Nearest.of_infinite {n : Nat} (h : infiniteUnits ≤ n) : Nearest n infiniteUnits := by
  refine ⟨fits_infiniteUnits, Nat.le_refl _, fun q _ hq => ?_⟩
  unfold distance
  omega

/-- Rounding to the nearest is monotone. -/
theorem Nearest.le_of_lt {n n' r r' : Nat} (h : Nearest n r) (h' : Nearest n' r') (hlt : n < n') : r ≤ r' := by
  refine Nat.le_of_not_lt fun hcross => ?_
  have habove := h.closest r' h'.fits h'.le
  have hbelow := h'.closest r h.fits h.le
  unfold distance at habove hbelow
  omega

/-! ## Rounding -/

/-- A multiple of what the lowest of 53 bits counts is closest if it is off by half of that at most. -/
theorem closest_of_half {n r s : Nat} (hn : 2 ^ 52 * 2 ^ s ≤ n) (hup : 2 * (r * 2 ^ s) ≤ 2 * n + 2 ^ s)
    (hdown : 2 * n ≤ 2 * (r * 2 ^ s) + 2 ^ s) : Closest n (r * 2 ^ s) := by
  -- Any other multiple is off by half of it at least.
  have hmultiple : ∀ q, distance (r * 2 ^ s) n ≤ distance (q * 2 ^ s) n := by
    intro q
    unfold distance
    rcases Nat.lt_trichotomy q r with hlt | rfl | hgt
    · have hstep : q * 2 ^ s + 2 ^ s ≤ r * 2 ^ s := Nat.succ_mul q _ ▸ Nat.mul_le_mul_right _ hlt
      omega
    · exact Nat.le_refl _
    · have hstep : r * 2 ^ s + 2 ^ s ≤ q * 2 ^ s := Nat.succ_mul r _ ▸ Nat.mul_le_mul_right _ hgt
      omega
  intro q hq
  rcases Nat.lt_or_ge q (2 ^ 52 * 2 ^ s) with hsmall | hlarge
  · -- It lies below the smallest multiple that has 53 bits.
    refine (hmultiple (2 ^ 52)).trans ?_
    unfold distance
    omega
  · have hfits : Fits (q * 2 ^ 0) := by rwa [Nat.pow_zero, Nat.mul_one]
    obtain ⟨k, rfl⟩ := hfits.dvd hlarge
    rw [Nat.mul_comm (2 ^ s) k]
    exact hmultiple k

theorem closest_round {m : Nat} {e : Int} (hm : 0 < m) (he : -1074 ≤ e) :
    Closest (m * 2 ^ (e + 1074).toNat) (units (UnpackedFloat.round .binary64 .positive m e)) := by
  rcases round_cases hm he with ⟨h, -, hround⟩ | ⟨m', e', hne, hlog, he', hexact, hround⟩
  · have hunits : units (.finite .positive (m * 2 ^ (e + 1074).toNat) (-1074) h) = m * 2 ^ (e + 1074).toNat :=
      Nat.mul_one _
    rw [hround, hunits]
    exact .refl _
  · obtain ⟨_, _, _, hresult, -, -, hunits⟩ := units_roundWithAccuracy hlog he'
    have hbits := two_pow_mul_le_of_log2 hne hlog
    obtain ⟨hup, hdown⟩ := roundedMantissa_error m' (m'.log2 - 52)
    rw [hround, hresult, hunits, ← hexact, Nat.mul_assoc, ← Nat.pow_add]
    generalize (ExtendedMantissa.ofMantissaAndAccuracy m' .exact >>> (m'.log2 - 52)).roundedMantissa = r at hup hdown ⊢
    refine closest_of_half ?_ ?_ ?_
    · calc 2 ^ 52 * 2 ^ (m'.log2 - 52 + (e' + 1074).toNat)
        _ = 2 ^ 52 * 2 ^ (m'.log2 - 52) * 2 ^ (e' + 1074).toNat := by ring
        _ ≤ m' * 2 ^ (e' + 1074).toNat := Nat.mul_le_mul_right _ hbits
    · calc 2 * (r * 2 ^ (m'.log2 - 52 + (e' + 1074).toNat))
        _ = 2 * (r * 2 ^ (m'.log2 - 52)) * 2 ^ (e' + 1074).toNat := by ring
        _ ≤ (2 * m' + 2 ^ (m'.log2 - 52)) * 2 ^ (e' + 1074).toNat := Nat.mul_le_mul_right _ hup
        _ = 2 * (m' * 2 ^ (e' + 1074).toNat) + 2 ^ (m'.log2 - 52 + (e' + 1074).toNat) := by ring
    · calc 2 * (m' * 2 ^ (e' + 1074).toNat)
        _ = 2 * m' * 2 ^ (e' + 1074).toNat := by ring
        _ ≤ (2 * (r * 2 ^ (m'.log2 - 52)) + 2 ^ (m'.log2 - 52)) * 2 ^ (e' + 1074).toNat := Nat.mul_le_mul_right _ hdown
        _ = 2 * (r * 2 ^ (m'.log2 - 52 + (e' + 1074).toNat)) + 2 ^ (m'.log2 - 52 + (e' + 1074).toNat) := by ring

theorem Rounded.fits {n : Nat} {u : UnpackedFloat} (h : Rounded n u) : Fits (units u) := by
  obtain ⟨m, e, _, rfl, hm, -⟩ := h.finite
  exact ⟨m, _, hm, rfl⟩

theorem Representable.fits {u : UnpackedFloat} (h : Representable u) : Fits (units u) := by
  cases h with
  | zero => exact ⟨0, 0, by decide, rfl⟩
  | subnormal m h hm => exact ⟨m, _, by omega, rfl⟩
  | normal m e h hm he => exact ⟨m, _, hm.2, rfl⟩
  | infinity => exact fits_infiniteUnits

theorem Representable.units_le {u : UnpackedFloat} (h : Representable u) : units u ≤ infiniteUnits := by
  rcases h.units_lt_or_eq with hlt | rfl
  · exact hlt.le
  · exact Nat.le_refl _

/-- A computed sum is the nearest number to the exact one. -/
theorem nearest_add {u v : UnpackedFloat} (hu : Representable u) (hv : Representable v) :
    Nearest (units u + units v) (units (Float.Model.pack (UnpackedFloat.add .binary64 u v)).unpack) := by
  rcases add_cases hu hv with ⟨x, hx, hunits, hsum⟩ | ⟨hlarge, hsum⟩ | ⟨m, e, hm, he, hunits, hsum⟩
  · rw [hsum, ← hunits]
    exact .of_fits hx.fits hx.units_le
  · rw [hsum]
    exact .of_infinite hlarge
  · have hround := rounded_round hm he
    rw [hsum, ← hunits, units_pack_of_rounded hround]
    exact (closest_round hm he).nearest hround.fits

/-! ## Sums -/

section Sums

variable {x y z : Float} {l l' : List Float}

theorem value_le_iff : value x ≤ value y ↔ units x.toModel.unpack ≤ units y.toModel.unpack := by
  rw [value, value, mul_le_mul_iff_left₀ smallest_pos, Nat.cast_le]

namespace NonNegative

/-- A sum does not become smaller if the first number becomes larger. -/
theorem value_add_le_add (hx : NonNegative x) (hy : NonNegative y) (hz : NonNegative z) (h : value x ≤ value y) :
    value (x + z) ≤ value (y + z) := by
  rcases (value_le_iff.1 h).lt_or_eq with hlt | heq
  · have hsum := nearest_add hx.representable hz.representable
    have hsum' := nearest_add hy.representable hz.representable
    exact value_le_iff.2 (hsum.le_of_lt hsum' (Nat.add_lt_add_right hlt _))
  · rw [hx.eq_of_units_eq hy heq]

/-- A sum is no smaller than its first number. -/
theorem value_le_add (hx : NonNegative x) (hy : NonNegative y) : value x ≤ value (x + y) := by
  have hzero : value 0.0 ≤ value y := value_le_iff.2 (Nat.zero_le _)
  have hsum := NonNegative.zero.value_add_le_add hy hx hzero
  rwa [hx.zero_add, hy.add_comm hx] at hsum

end NonNegative

/-- Numbers that are left out, and a smaller number to begin with, make no sum larger. -/
theorem value_foldl_add_le_of_sublist (h : l.Sublist l') (hl : ∀ w ∈ l', NonNegative w) (hx : NonNegative x)
    (hy : NonNegative y) (hxy : value x ≤ value y) : value (l.foldl (· + ·) x) ≤ value (l'.foldl (· + ·) y) := by
  induction h generalizing x y with
  | slnil => exact hxy
  | cons z _ ih =>
    rw [List.forall_mem_cons] at hl
    exact ih hl.2 hx (hy.add hl.1) (hxy.trans (hy.value_le_add hl.1))
  | cons_cons z _ ih =>
    rw [List.forall_mem_cons] at hl
    exact ih hl.2 (hx.add hl.1) (hy.add hl.1) (hx.value_add_le_add hy hl.1 hxy)

end Sums

end StaffIndex.Binary64
