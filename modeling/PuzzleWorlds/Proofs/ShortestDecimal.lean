import PuzzleWorlds.Number.Decimal
import PuzzleWorlds.Number.Reading
import PuzzleWorlds.Proofs.NearestFloat

/-! The decimal that is written for a float lies among those that are nearest to it, so the float
is read back from it, whatever the grid on which it was found. -/

namespace PuzzleWorlds

namespace Decimal

def value (d : Decimal) : ℚ := d.digits * 10 ^ d.exp

variable {a n : Nat} {i j : Int} {b : Binary} {d : Decimal}

/-- Both sides of a comparison are scaled by the same whole number. -/
theorem scaled_pos (i j : Int) : (0 : ℚ) < tenTo (-i) * twoTo (-j) :=
  mul_pos (Nat.cast_pos.mpr (tenTo_pos _)) (Nat.cast_pos.mpr (twoTo_pos _))

theorem scaled_ten : ((a * tenTo i * twoTo (-j) : Nat) : ℚ) =
    a * 10 ^ i * (tenTo (-i) * twoTo (-j)) := by
  have pos : (tenTo (-i) : ℚ) ≠ 0 := Nat.cast_ne_zero.mpr (tenTo_pos _).ne'
  rw [← tenTo_div]
  push_cast
  field_simp

theorem scaled_two : ((n * twoTo j * tenTo (-i) : Nat) : ℚ) =
    n * 2 ^ j * (tenTo (-i) * twoTo (-j)) := by
  have pos : (twoTo (-j) : ℚ) ≠ 0 := Nat.cast_ne_zero.mpr (twoTo_pos _).ne'
  rw [← twoTo_div]
  push_cast
  field_simp

theorem compareScaled_eq_lt : compareScaled a i n j = .lt ↔ (a * 10 ^ i : ℚ) < n * 2 ^ j := by
  rw [compareScaled, Nat.compare_eq_lt, ← @Nat.cast_lt ℚ, scaled_ten, scaled_two,
    mul_lt_mul_iff_left₀ (scaled_pos i j)]

theorem compareScaled_eq_gt : compareScaled a i n j = .gt ↔ (n * 2 ^ j : ℚ) < a * 10 ^ i := by
  rw [compareScaled, Nat.compare_eq_gt, ← @Nat.cast_lt ℚ, scaled_ten, scaled_two,
    mul_lt_mul_iff_left₀ (scaled_pos i j)]

theorem compareScaled_eq_eq : compareScaled a i n j = .eq ↔ (a * 10 ^ i : ℚ) = n * 2 ^ j := by
  rw [compareScaled, Nat.compare_eq_eq, ← Nat.cast_inj (R := ℚ), scaled_ten, scaled_two,
    mul_left_inj' (scaled_pos i j).ne']

/-- A decimal that reads back to a number is nearest to it. -/
theorem nearest_of_readsBack (pos : 0 < b.m) (h : readsBack b d = true) : b.Nearest d.value := by
  have posQ : (0 : ℚ) < 2 ^ b.q := by positivity
  have quarter : (2 : ℚ) ^ b.q = 4 * 2 ^ (b.q - 2) := by
    rw [zpow_sub₀ two_ne_zero]
    field_simp
    norm_num
  have least : ((if b.narrow then 4 * b.m - 1 else 4 * b.m - 2 : Nat) : ℚ) * 2 ^ (b.q - 2) =
      (b.m - if b.narrow then 1 / 4 else 1 / 2) * 2 ^ b.q := by
    rw [quarter]
    split
    · rw [Nat.cast_sub (by omega)]
      push_cast
      ring
    · rw [Nat.cast_sub (by omega)]
      push_cast
      ring
  have most : ((4 * b.m + 2 : Nat) : ℚ) * 2 ^ (b.q - 2) = (b.m + 1 / 2) * 2 ^ b.q := by
    rw [quarter]
    push_cast
    ring
  have narrow : (b.m == hiddenBit && decide (b.q > -1074)) = b.narrow := rfl
  simp only [readsBack, narrow, Bool.and_eq_true, Bool.or_eq_true, beq_iff_eq, compareScaled_eq_lt,
    compareScaled_eq_gt, compareScaled_eq_eq, least, most] at h
  obtain ⟨low, high⟩ := h
  refine ⟨?_, ?_, fun odd => ?_⟩
  · exact low.elim le_of_lt fun same => same.2.ge
  · exact high.elim le_of_lt fun same => same.2.le
  · have wide : b.narrow = false := by
      rw [← narrow, Bool.and_eq_false_iff]
      refine .inl (beq_eq_false_iff_ne.mpr ?_)
      rintro top
      rw [top] at odd
      exact absurd odd (by decide)
    have odd' : ¬b.m % 2 = 0 := by omega
    simp only [wide, odd', false_and, or_false] at low high
    exact ⟨low, high⟩

theorem readsBack_of_onGrid? {e : Int} (h : onGrid? b e = some d) : readsBack b d = true := by
  unfold onGrid? at h
  dsimp only at h
  split at h
  next below above =>
    split at h <;> obtain rfl := Option.some.inj h
    · exact below
    · exact above
    · split
      · exact below
      · exact above
  next below above =>
    obtain rfl := Option.some.inj h
    exact below
  next below above =>
    obtain rfl := Option.some.inj h
    exact above
  next => cases h

theorem value_exact (b : Binary) : (exact b).value = b.m * 2 ^ b.q := by
  unfold exact
  split
  next whole =>
    obtain ⟨n, same⟩ := Int.eq_ofNat_of_zero_le whole
    simp [value, twoTo, same]
  next part =>
    obtain ⟨n, less⟩ : ∃ n : Nat, b.q = -n := ⟨(-b.q).toNat, by omega⟩
    have ten : (10 : ℚ) = 5 * 2 := by norm_num
    have five : ((Nat.pow 5 n : Nat) : ℚ) = 5 ^ n := Nat.cast_pow 5 n
    simp only [value, less, Int.neg_neg, Int.toNat_natCast, zpow_neg, zpow_natCast, ten, mul_pow,
      Nat.cast_mul, five]
    field_simp

theorem nearest_exact (b : Binary) : b.Nearest (exact b).value := by
  have posQ : (0 : ℚ) < 2 ^ b.q := by positivity
  rw [value_exact]
  refine ⟨?_, ?_, fun odd => ⟨?_, ?_⟩⟩
  · gcongr
    split <;> norm_num
  · gcongr
    norm_num
  · gcongr
    norm_num
  · gcongr
    norm_num

theorem nearest_shortest (pos : 0 < b.m) : b.Nearest (shortest b).value := by
  unfold shortest
  dsimp only
  cases found : ((List.range 17).map fun n => scale b - (n + 1 : Nat)).findSome? (onGrid? b) with
  | none => exact nearest_exact b
  | some d =>
    obtain ⟨e, -, grid⟩ := List.exists_of_findSome?_eq_some found
    exact nearest_of_readsBack pos (readsBack_of_onGrid? grid)

theorem exp_of_onGrid? {e : Int} (h : onGrid? b e = some d) : d.exp = e := by
  unfold onGrid? at h
  dsimp only at h
  split at h
  next => split at h <;> obtain rfl := Option.some.inj h <;> rfl
  next =>
    obtain rfl := Option.some.inj h
    rfl
  next =>
    obtain rfl := Option.some.inj h
    rfl
  next => cases h

theorem least_scale (fits : b.Fits) : -330 ≤ scale b := by
  have least := fits.least
  unfold scale
  dsimp only
  cases found : [((b.m.log2 : Int) + b.q) * 30103 / 100000 - 1,
      ((b.m.log2 : Int) + b.q) * 30103 / 100000 - 1 + 1,
      ((b.m.log2 : Int) + b.q) * 30103 / 100000 - 1 + 2,
      ((b.m.log2 : Int) + b.q) * 30103 / 100000 - 1 + 3].find?
        fun k => compareScaled 1 k b.m b.q == .gt with
  | none =>
    rw [Option.getD_none]
    omega
  | some k =>
    have member := List.mem_of_find?_eq_some found
    simp only [List.mem_cons, List.not_mem_nil, or_false] at member
    rw [Option.getD_some]
    omega

/-- No grid is finer than that of the number itself, or of seventeen digits. -/
theorem least_shortest (fits : b.Fits) : -1074 ≤ (shortest b).exp := by
  have least := fits.least
  have scaled := least_scale fits
  unfold shortest
  dsimp only
  cases found : ((List.range 17).map fun n => scale b - (n + 1 : Nat)).findSome? (onGrid? b) with
  | none =>
    rw [Option.getD_none]
    unfold exact
    split
    · exact (by decide : (-1074 : Int) ≤ 0)
    · exact least
  | some d =>
    obtain ⟨e, member, grid⟩ := List.exists_of_findSome?_eq_some found
    obtain ⟨n, few, rfl⟩ := List.mem_map.mp member
    rw [List.mem_range] at few
    rw [Option.getD_some, exp_of_onGrid? grid]
    omega

end Decimal

/-! The exponents beyond which a decimal is not looked at any closer. -/

section Cutoffs

variable {b : Binary} {digits : Nat} {exp : Int}

theorem ten_le_two {n : Nat} {t : Int} (h : 196 * t ≤ 59 * n) : (10 : ℚ) ^ t ≤ 2 ^ n := by
  refine (pow_le_pow_iff_left₀ (by positivity) (by positivity) (n := 196) (by decide)).mp ?_
  calc ((10 : ℚ) ^ t) ^ 196 = 10 ^ (196 * t) := by rw [mul_comm, zpow_mul, zpow_ofNat]
    _ ≤ 10 ^ ((59 * n : Nat) : Int) := by gcongr <;> [norm_num; exact_mod_cast h]
    _ = (10 ^ 59) ^ n := by rw [zpow_natCast, pow_mul]
    _ ≤ (2 ^ 196) ^ n := by gcongr; norm_num
    _ = (2 ^ n) ^ 196 := by rw [← pow_mul, ← pow_mul, mul_comm]

theorem two_le_ten {n : Nat} {t : Int} (h : 28 * n ≤ 93 * t) : (2 : ℚ) ^ n ≤ 10 ^ t := by
  refine (pow_le_pow_iff_left₀ (by positivity) (by positivity) (n := 93) (by decide)).mp ?_
  calc ((2 : ℚ) ^ n) ^ 93 = (2 ^ 93) ^ n := by rw [← pow_mul, ← pow_mul, mul_comm]
    _ ≤ (10 ^ 28) ^ n := by gcongr; norm_num
    _ = 10 ^ ((28 * n : Nat) : Int) := by rw [zpow_natCast, pow_mul]
    _ ≤ 10 ^ (93 * t) := by gcongr <;> [norm_num; exact_mod_cast h]
    _ = (10 ^ t) ^ 93 := by rw [mul_comm, zpow_mul, zpow_ofNat]

/-- What is nearest to a finite float other than zero is neither large nor small. -/
theorem Binary.Nearest.bounds (fits : b.Fits) (pos : 0 < b.m) {v : ℚ} (near : b.Nearest v) :
    (2 : ℚ) ^ (-1075 : Int) ≤ v ∧ v < 2 ^ 1024 := by
  have posQ : (0 : ℚ) < 2 ^ b.q := by positivity
  have one : (1 : ℚ) ≤ b.m := by exact_mod_cast pos
  have bits : (b.m : ℚ) + 1 ≤ 2 ^ 53 := by exact_mod_cast fits.bits
  constructor
  · calc (2 : ℚ) ^ (-1075 : Int) = 1 / 2 * 2 ^ (-1074 : Int) := by
          rw [show (-1075 : Int) = -1 + -1074 by rfl, zpow_add₀ two_ne_zero]
          norm_num
      _ ≤ 1 / 2 * 2 ^ b.q := by
          gcongr
          · norm_num
          · exact fits.least
      _ ≤ (b.m - if b.narrow then 1 / 4 else 1 / 2) * 2 ^ b.q := by
          gcongr
          split <;> linarith
      _ ≤ v := near.low
  · calc v ≤ (b.m + 1 / 2) * 2 ^ b.q := near.high
      _ < 2 ^ 53 * 2 ^ b.q := by gcongr; linarith
      _ ≤ 2 ^ 53 * 2 ^ (971 : Int) := by
          gcongr
          · norm_num
          · exact fits.most
      _ = 2 ^ 1024 := by rw [zpow_ofNat, ← pow_add]

/-- A number that is not too large has few digits if its grid is not too fine. -/
theorem log2_few (pos : 0 < digits) (least : -1074 ≤ exp)
    (high : (digits * 10 ^ exp : ℚ) < 2 ^ 1024) : digits.log2 < 1024 + 3568 := by
  have posQ : (0 : ℚ) < 10 ^ exp := by positivity
  have low := (Binary.log2_bounds pos).1
  refine (pow_lt_pow_iff_right₀ (one_lt_two : (1 : ℚ) < 2)).mp ?_
  calc (2 : ℚ) ^ digits.log2 ≤ digits := by rwa [zpow_natCast] at low
    _ = digits * 10 ^ exp * 10 ^ (-exp) := by
        rw [zpow_neg, mul_inv_cancel_right₀ (ne_of_gt posQ)]
    _ < 2 ^ 1024 * 10 ^ (-exp) := by gcongr
    _ ≤ 2 ^ 1024 * 10 ^ (1074 : Int) := by
        gcongr
        · norm_num
        · omega
    _ ≤ 2 ^ 1024 * 2 ^ 3568 := by
        gcongr
        exact ten_le_two (by norm_num)
    _ = 2 ^ (1024 + 3568) := (pow_add _ _ _).symm

/-- A number of a small size is below every float but zero. -/
theorem lt_of_size {n : Nat} {t : Int} (size : (n : Int) * 30103 / 100000 = t)
    (few : n < 1024 + 3568) (high : (digits : ℚ) < 2 ^ (n + 1)) (small : t + exp < -400) :
    (digits * 10 ^ exp : ℚ) < 2 ^ (-1075 : Int) := by
  have posQ : (0 : ℚ) < 10 ^ exp := by positivity
  calc (digits * 10 ^ exp : ℚ) < 2 ^ (n + 1) * 10 ^ exp := by gcongr
    _ ≤ 10 ^ (t + 10) * 10 ^ exp := by
        gcongr
        refine two_le_ten ?_
        push_cast
        omega
    _ = 10 ^ (t + 10 + exp) := by rw [← zpow_add₀ (by norm_num)]
    _ ≤ 10 ^ (-391 : Int) := by
        gcongr
        · norm_num
        · omega
    _ ≤ 2 ^ (-1075 : Int) := by
        rw [zpow_neg, zpow_neg, zpow_ofNat 2 1075]
        gcongr
        exact two_le_ten (by norm_num)

/-- A number of a large size is above every float. -/
theorem le_of_size {n : Nat} {t : Int} (size : (n : Int) * 30103 / 100000 = t)
    (few : n < 1024 + 3568) (low : (2 : ℚ) ^ n ≤ digits) (large : 400 < t + exp) :
    (2 : ℚ) ^ 1024 ≤ digits * 10 ^ exp := by
  calc (2 : ℚ) ^ 1024 ≤ 10 ^ (391 : Int) := two_le_ten (by norm_num)
    _ ≤ 10 ^ (t - 10 + exp) := by
        gcongr
        · norm_num
        · omega
    _ = 10 ^ (t - 10) * 10 ^ exp := by rw [← zpow_add₀ (by norm_num)]
    _ ≤ 2 ^ n * 10 ^ exp := by
        gcongr
        refine ten_le_two ?_
        omega
    _ ≤ digits * 10 ^ exp := by gcongr

/-- No exponent that is not far out of range is cut off. -/
theorem size_bounds (pos : 0 < digits) (least : -1074 ≤ exp)
    (low : (2 : ℚ) ^ (-1075 : Int) ≤ digits * 10 ^ exp)
    (high : (digits * 10 ^ exp : ℚ) < 2 ^ 1024) :
    -400 ≤ (digits.log2 : Int) * 30103 / 100000 + exp ∧
      (digits.log2 : Int) * 30103 / 100000 + exp ≤ 400 := by
  obtain ⟨logLow, logHigh⟩ := Binary.log2_bounds pos
  have few := log2_few pos least high
  rw [zpow_natCast] at logLow
  refine ⟨le_of_not_gt fun small => ?_, le_of_not_gt fun large => ?_⟩
  · exact absurd low (not_le.mpr (lt_of_size rfl few (by exact_mod_cast logHigh) small))
  · exact absurd high (not_lt.mpr (le_of_size rfl few logLow large))

theorem digits_pos_of_nearest (pos : 0 < b.m) (near : b.Nearest (digits * 10 ^ exp)) :
    0 < digits := by
  have one : (1 : ℚ) ≤ b.m := by exact_mod_cast pos
  have positive : (0 : ℚ) < digits * 10 ^ exp := by
    refine lt_of_lt_of_le (mul_pos ?_ (by positivity)) near.low
    split <;> linarith
  refine Nat.pos_of_ne_zero ?_
  rintro rfl
  simp at positive

/-- A decimal that is nearest to a float is read as that float. -/
theorem decimalFloat_eq (fits : b.Fits) (pos : 0 < b.m) (least : -1074 ≤ exp)
    (near : b.Nearest (digits * 10 ^ exp)) (negative : Bool) :
    decimalFloat negative digits exp =
      if negative then -Float.ofBits b.magnitude.toUInt64
      else Float.ofBits b.magnitude.toUInt64 := by
  obtain ⟨low, high⟩ := near.bounds fits pos
  have posDigits := digits_pos_of_nearest pos near
  obtain ⟨small, large⟩ := size_bounds posDigits least low high
  have ratio : ((digits * tenTo exp : Nat) : ℚ) / (tenTo (-exp) : Nat) = digits * 10 ^ exp := by
    rw [← tenTo_div]
    push_cast
    ring
  have read : Binary.nearest? false (digits * tenTo exp) (tenTo (-exp)) =
      some (Float.ofBits b.magnitude.toUInt64) := by
    refine Binary.nearest?_eq fits (Nat.mul_pos posDigits (tenTo_pos _)) (tenTo_pos _) ?_
    rwa [ratio]
  have some : ¬(digits == 0) = true := by simpa using Nat.pos_iff_ne_zero.mp posDigits
  unfold decimalFloat
  dsimp only
  rw [if_neg some, if_neg (Int.not_lt.mpr large), if_neg (Int.not_lt.mpr small), read,
    Option.getD_some]

end Cutoffs

end PuzzleWorlds
