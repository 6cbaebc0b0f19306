import Mathlib
import PuzzleWorlds.Number.Binary

/-! The float nearest to a quotient. A positive finite float is told by its magnitude, its bits
without the sign; of two neighbours in the order of the bits each owns the quotients on its side of
the middle, so a quotient is followed through the guess of its exponent, the rounding of the
significand and the carry into the next exponent to the one magnitude that owns it. -/

namespace PuzzleWorlds

open Float.Model (Format pack)
open Float.Model.UnpackedFloat hiding pack

/-- The other sign changes the sign of what is unpacked, and nothing else. -/
theorem unpack_packComponents_neg {e : BitVec 11} (finite : e ≠ -1#11) (f : BitVec 52) :
    unpack .binary64 (packComponents .binary64 .negative e f) =
      (unpack .binary64 (packComponents .binary64 .positive e f)).neg := by
  unfold unpack
  simp only [unpackExponent_packComponents, unpackMantissa_packComponents,
    unpackSign_packComponents, Sign.ofBitVec_toBitVec]
  rw [if_neg finite, if_neg finite]
  split
  next => split <;> rfl
  next => rfl

theorem valid_packComponents {e : BitVec 11} (finite : e ≠ -1#11) (s : Sign) (f : BitVec 52) :
    Format.binary64.Valid (packComponents .binary64 s e f) := by
  refine ⟨fun top => absurd ?_ finite⟩
  rwa [unpackExponent_packComponents] at top

theorem neg_ofBits_packComponents {e : BitVec 11} (finite : e ≠ -1#11) (f : BitVec 52) :
    -Float.ofBits ⟨packComponents .binary64 .positive e f⟩ =
      Float.ofBits ⟨packComponents .binary64 .negative e f⟩ := by
  have kept := pack_unpack_of_valid (valid_packComponents finite .positive f)
  change Float.ofModel (pack (unpack .binary64 (Float.Model.UnpackedFloat.pack .binary64
      (unpack .binary64 (packComponents .binary64 .positive e f)))).neg) =
    Float.ofModel (pack (unpack .binary64 (packComponents .binary64 .negative e f)))
  rw [kept, unpack_packComponents_neg finite]

theorem toNat_packComponents (s : Sign) (e : BitVec 11) (f : BitVec 52) :
    (packComponents .binary64 s e f).toNat =
      s.toBitVec.toNat * 2 ^ 63 + e.toNat * 2 ^ 52 + f.toNat := by
  have mantissa := f.isLt
  have exponent := e.isLt
  change (s.toBitVec ++ e ++ f).toNat = _
  rw [BitVec.toNat_append, BitVec.toNat_append, Nat.shiftLeft_eq, Nat.shiftLeft_eq, Nat.mul_comm,
    ← Nat.two_pow_add_eq_or_of_lt mantissa, Nat.mul_comm _ (2 ^ 11),
    ← Nat.two_pow_add_eq_or_of_lt exponent]
  ring

namespace Binary

/-- The bits of a number that is not negative. -/
def magnitude (b : Binary) : Nat := (b.q + 1074).toNat * hiddenBit + b.m

/-- A number whose significand and exponent are those of a finite float. -/
structure Fits (b : Binary) : Prop where
  bits : b.m < 2 * hiddenBit
  least : -1074 ≤ b.q
  most : b.q ≤ 971
  normal : hiddenBit ≤ b.m ∨ b.q = -1074

theorem ofBits_eq (u : UInt64) : ofBits u =
    if u.toNat / 2 ^ 52 % 2 ^ 11 = 0 then ⟨u.toNat / 2 ^ 63 != 0, u.toNat % 2 ^ 52, -1074⟩
    else ⟨u.toNat / 2 ^ 63 != 0, hiddenBit + u.toNat % 2 ^ 52,
      (u.toNat / 2 ^ 52 % 2 ^ 11 : Nat) - 1075⟩ := by
  have exponent : ((u >>> 52) &&& 0x7FF).toNat = u.toNat / 2 ^ 52 % 2 ^ 11 := by
    rw [UInt64.toNat_and, UInt64.toNat_shiftRight, ← Nat.and_two_pow_sub_one_eq_mod,
      Nat.shiftRight_eq_div_pow]
    rfl
  have significand : (u &&& 0xFFFFFFFFFFFFF).toNat = u.toNat % 2 ^ 52 := by
    rw [UInt64.toNat_and, ← Nat.and_two_pow_sub_one_eq_mod]
    rfl
  have sign : (u >>> 63 != 0) = (u.toNat / 2 ^ 63 != 0) := by
    rw [Bool.eq_iff_iff, bne_iff_ne, bne_iff_ne, ne_eq, ne_eq, ← UInt64.toNat_inj,
      UInt64.toNat_shiftRight, Nat.shiftRight_eq_div_pow]
    rfl
  simp only [ofBits, exponent, significand, sign, beq_iff_eq]

theorem magnitude_ofBits (u : UInt64) : (ofBits u).magnitude = u.toNat % 2 ^ 63 := by
  rw [ofBits_eq]
  split <;> simp only [magnitude, hiddenBit] <;> omega

theorem negative_ofBits (u : UInt64) : (ofBits u).negative = (u.toNat / 2 ^ 63 != 0) := by
  rw [ofBits_eq]
  split <;> rfl

theorem fits_ofBits {u : UInt64} (finite : u.toNat / 2 ^ 52 % 2 ^ 11 ≠ 2047) :
    (ofBits u).Fits := by
  rw [ofBits_eq]
  split
  next =>
    exact ⟨by simp only [hiddenBit]; omega, Int.le_refl _, by dsimp only; omega, .inr rfl⟩
  next =>
    exact ⟨by simp only [hiddenBit]; omega, by dsimp only; omega, by dsimp only; omega,
      .inl (Nat.le_add_right _ _)⟩

/-- A finite float is packed from its sign, its exponent and its significand. -/
theorem exists_packComponents {x : Float} (finite : x.isFinite = true) :
    ∃ s e f, e ≠ -1#11 ∧ x.toBits.toBitVec = packComponents .binary64 s e f := by
  let bits : BitVec Format.binary64.numBits := x.toBits.toBitVec
  refine ⟨.ofBitVec (unpackSign bits), unpackExponent bits, unpackMantissa bits, fun top => ?_,
    (packComponents_unpackSign_unpackExponent_unpackMantissa bits).symm⟩
  have unpacked : (unpack .binary64 x.toBits.toBitVec).isFinite = true := finite
  unfold unpack at unpacked
  dsimp only at unpacked
  rw [if_pos top] at unpacked
  split at unpacked <;> contradiction

theorem fits_of_isFinite {x : Float} (finite : x.isFinite = true) : (ofBits x.toBits).Fits := by
  obtain ⟨s, e, f, inside, packed⟩ := exists_packComponents finite
  have whole : x.toBits.toNat = _ := congrArg BitVec.toNat packed
  rw [toNat_packComponents] at whole
  have below : e.toNat ≠ 2047 := fun top => inside (BitVec.eq_of_toNat_eq top)
  have mantissa := f.isLt
  have exponent := e.isLt
  refine fits_ofBits ?_
  rw [whole]
  omega

/-- A finite float is its magnitude with its sign. -/
theorem eq_ofBits_magnitude {x : Float} (finite : x.isFinite = true) :
    x = if (ofBits x.toBits).negative then
        -Float.ofBits (ofBits x.toBits).magnitude.toUInt64
      else Float.ofBits (ofBits x.toBits).magnitude.toUInt64 := by
  obtain ⟨s, e, f, inside, packed⟩ := exists_packComponents finite
  have whole : x.toBits.toNat = _ := congrArg BitVec.toNat packed
  rw [toNat_packComponents] at whole
  have mantissa : f.toNat < 2 ^ 52 := f.isLt
  have exponent := e.isLt
  have magnitude : (ofBits x.toBits).magnitude.toUInt64 =
      ⟨packComponents .binary64 .positive e f⟩ := by
    have positive := toNat_packComponents .positive e f
    have low : (x.toBits.toNat) % 2 ^ 63 = e.toNat * 2 ^ 52 + f.toNat := by omega
    have packed' : (UInt64.ofBitVec (packComponents .binary64 .positive e f)).toNat =
        (packComponents .binary64 .positive e f).toNat := rfl
    rw [← UInt64.toNat_inj, magnitude_ofBits, low, UInt64.toNat_ofNat', packed', positive]
    simp only [Sign.toBitVec, BitVec.toNat_ofNat]
    omega
  have bits : Float.ofBits ⟨packComponents .binary64 s e f⟩ = x := by
    rw [← packed]
    exact Float.ofBits_toBits x
  rw [magnitude, negative_ofBits, whole, neg_ofBits_packComponents inside]
  cases s with
  | positive =>
    have sign : Sign.positive.toBitVec.toNat = 0 := rfl
    have high : (0 * 2 ^ 63 + e.toNat * 2 ^ 52 + f.toNat) / 2 ^ 63 = 0 := by omega
    rw [sign, high]
    exact bits.symm
  | negative =>
    have sign : Sign.negative.toBitVec.toNat = 1 := rfl
    have high : (1 * 2 ^ 63 + e.toNat * 2 ^ 52 + f.toNat) / 2 ^ 63 = 1 := by omega
    rw [sign, high]
    exact bits.symm

end Binary

theorem twoTo_pos (e : Int) : 0 < twoTo e := Nat.pow_pos (by decide)

theorem tenTo_pos (e : Int) : 0 < tenTo e := Nat.pow_pos (by decide)

theorem twoTo_div (e : Int) : (twoTo e : ℚ) / twoTo (-e) = 2 ^ e := by
  obtain ⟨n, rfl | rfl⟩ := Int.eq_nat_or_neg e <;> simp [twoTo]

theorem tenTo_div (e : Int) : (tenTo e : ℚ) / tenTo (-e) = 10 ^ e := by
  obtain ⟨n, rfl | rfl⟩ := Int.eq_nat_or_neg e <;> simp [tenTo]

/-- The numbers that are rounded to `r`, a half to the even neighbour. -/
structure RoundsTo (w : ℚ) (r : Nat) : Prop where
  low : r - 1 / 2 ≤ w
  high : w ≤ r + 1 / 2
  ends : r % 2 = 1 → r - 1 / 2 < w ∧ w < r + 1 / 2

/-- The same without fractions. -/
theorem RoundsTo.bounds {num den r : Nat} (pos : 0 < den) (h : RoundsTo (num / den) r) :
    2 * (r * den) ≤ 2 * num + den ∧ 2 * num ≤ 2 * (r * den) + den ∧
      (r % 2 = 1 → 2 * (r * den) < 2 * num + den ∧ 2 * num < 2 * (r * den) + den) := by
  have posQ : (0 : ℚ) < den := Nat.cast_pos.mpr pos
  obtain ⟨low, high, ends⟩ := h
  rw [le_div_iff₀ posQ] at low
  rw [div_le_iff₀ posQ] at high
  rw [lt_div_iff₀ posQ, div_lt_iff₀ posQ] at ends
  refine ⟨?_, ?_, fun odd => ?_⟩
  · have low : (2 * (r * den) : ℚ) ≤ 2 * num + den := by linarith
    exact_mod_cast low
  · have high : (2 * num : ℚ) ≤ 2 * (r * den) + den := by linarith
    exact_mod_cast high
  · obtain ⟨above, below⟩ := ends odd
    have above : (2 * (r * den) : ℚ) < 2 * num + den := by linarith
    have below : (2 * num : ℚ) < 2 * (r * den) + den := by linarith
    exact ⟨by exact_mod_cast above, by exact_mod_cast below⟩

theorem roundQuotient_eq {num den r : Nat} (pos : 0 < den) (h : RoundsTo (num / den) r) :
    roundQuotient num den = r := by
  obtain ⟨low, high, ends⟩ := h.bounds pos
  have whole := Nat.div_add_mod num den
  have part := Nat.mod_lt num pos
  unfold roundQuotient
  generalize num / den = q at whole ⊢
  generalize num % den = t at whole part ⊢
  subst whole
  have most : r ≤ q + 1 := by
    by_contra beyond
    have more : den * (q + 1 + 1) ≤ den * r := Nat.mul_le_mul_left den (Nat.not_le.mp beyond)
    have split : den * (q + 1 + 1) = den * q + den + den := by ring
    have swap : r * den = den * r := Nat.mul_comm _ _
    omega
  have least : q ≤ r := by
    by_contra below
    have less : den * (r + 1) ≤ den * q := Nat.mul_le_mul_left den (Nat.not_le.mp below)
    have split : den * (r + 1) = r * den + den := by ring
    omega
  obtain rfl | rfl : r = q ∨ r = q + 1 := by omega
  · rw [Nat.mul_comm r den] at low high ends
    have half : 2 * t ≤ den := by omega
    rcases Nat.lt_or_eq_of_le half with below | same
    · rw [Nat.compare_eq_lt.mpr below]
    · rw [Nat.compare_eq_eq.mpr same]
      have even : r % 2 = 0 := by
        by_contra odd
        have := (ends (by omega)).2
        omega
      simp [even]
  · have split : (q + 1) * den = den * q + den := by ring
    rw [split] at low high ends
    have half : den ≤ 2 * t := by omega
    rcases Nat.lt_or_eq_of_le half with above | same
    · rw [Nat.compare_eq_gt.mpr above]
    · rw [Nat.compare_eq_eq.mpr same.symm]
      have odd : q % 2 = 1 := by
        by_contra even
        have := (ends (by omega)).1
        omega
      simp [odd]

namespace Binary

/-- Below a power of two the gap to the next float is half as wide. -/
def narrow (b : Binary) : Bool := b.m == hiddenBit && b.q > -1074

/-- The quotients that are nearest to the number; an end of the interval is among them exactly if
the significand is even. -/
structure Nearest (b : Binary) (v : ℚ) : Prop where
  low : (b.m - if b.narrow then 1 / 4 else 1 / 2) * 2 ^ b.q ≤ v
  high : v ≤ (b.m + 1 / 2) * 2 ^ b.q
  ends : b.m % 2 = 1 → (b.m - 1 / 2) * 2 ^ b.q < v ∧ v < (b.m + 1 / 2) * 2 ^ b.q

theorem log2_bounds {n : Nat} (pos : 0 < n) :
    (2 : ℚ) ^ (n.log2 : Int) ≤ n ∧ (n : ℚ) < 2 ^ (n.log2 + 1 : Int) := by
  have low := Nat.log2_self_le (Nat.pos_iff_ne_zero.mp pos)
  have high := Nat.lt_log2_self (n := n)
  constructor
  · rw [zpow_natCast]
    exact_mod_cast low
  · have : (2 : ℚ) ^ (n.log2 + 1 : Int) = ((2 ^ (n.log2 + 1) : Nat) : ℚ) := by
      push_cast
      exact_mod_cast rfl
    rw [this]
    exact_mod_cast high

theorem tooSmall_iff {num den : Nat} (posDen : 0 < den) (g : Int) :
    num * twoTo (-g) < den * twoTo g * hiddenBit ↔ (num / den : ℚ) < 2 ^ (g + 52) := by
  have posQ : (0 : ℚ) < den := Nat.cast_pos.mpr posDen
  have posTwo : (0 : ℚ) < twoTo (-g) := Nat.cast_pos.mpr (twoTo_pos _)
  have split : (2 : ℚ) ^ (g + 52) = twoTo g / twoTo (-g) * hiddenBit := by
    rw [twoTo_div, zpow_add₀ two_ne_zero]
    norm_num [hiddenBit]
  rw [split, div_lt_iff₀ posQ, div_mul_eq_mul_div, div_mul_eq_mul_div, lt_div_iff₀ posTwo,
    ← @Nat.cast_lt ℚ]
  push_cast
  rw [show (twoTo g * hiddenBit * den : ℚ) = den * twoTo g * hiddenBit by ring]

/-- The exponent is guessed up to one, and the guess is put right by an exact comparison. -/
theorem exists_exponent {num den : Nat} (posNum : 0 < num) (posDen : 0 < den) :
    ∃ k : Int, (2 : ℚ) ^ (k + 52) ≤ num / den ∧ (num / den : ℚ) < 2 ^ (k + 53) ∧
      nearest? false num den =
        let e := max (-1074) k
        let s := roundQuotient (num * twoTo (-e)) (den * twoTo e)
        let magnitude : Int := if s < hiddenBit then s else (e + 1074) * hiddenBit + s
        if magnitude ≥ 0x7FF0000000000000 then none
        else some (Float.ofBits (signBit false ||| magnitude.toNat.toUInt64)) := by
  have posQ : (0 : ℚ) < den := Nat.cast_pos.mpr posDen
  obtain ⟨numLow, numHigh⟩ := log2_bounds posNum
  obtain ⟨denLow, denHigh⟩ := log2_bounds posDen
  have low : (2 : ℚ) ^ (num.log2 - den.log2 - 52 + 51 : Int) < num / den := by
    rw [lt_div_iff₀ posQ]
    calc (2 : ℚ) ^ (num.log2 - den.log2 - 52 + 51 : Int) * den
        < 2 ^ (num.log2 - den.log2 - 52 + 51 : Int) * 2 ^ (den.log2 + 1 : Int) := by gcongr
      _ = 2 ^ (num.log2 : Int) := by
          rw [← zpow_add₀ two_ne_zero]
          congr 1
          ring
      _ ≤ num := numLow
  have high : (num / den : ℚ) < 2 ^ (num.log2 - den.log2 - 52 + 53 : Int) := by
    rw [div_lt_iff₀ posQ]
    calc (num : ℚ) < 2 ^ (num.log2 + 1 : Int) := numHigh
      _ = 2 ^ (num.log2 - den.log2 - 52 + 53 : Int) * 2 ^ (den.log2 : Int) := by
          rw [← zpow_add₀ two_ne_zero]
          congr 1
          ring
      _ ≤ 2 ^ (num.log2 - den.log2 - 52 + 53 : Int) * den := by gcongr
  have some : ¬(num == 0) = true := by simpa using Nat.pos_iff_ne_zero.mp posNum
  have put := @tooSmall_iff num den posDen (num.log2 - den.log2 - 52)
  by_cases small : num * twoTo (-(num.log2 - den.log2 - 52 : Int)) <
      den * twoTo (num.log2 - den.log2 - 52) * hiddenBit
  · refine ⟨num.log2 - den.log2 - 52 - 1, ?_, ?_, ?_⟩
    · exact (le_of_eq (by congr 1; ring)).trans low.le
    · exact (put.mp small).trans_eq (by congr 1; ring)
    · rw [nearest?, if_neg some]
      simp only [small, if_true]
  · refine ⟨num.log2 - den.log2 - 52, not_lt.mp (mt put.mpr small), high, ?_⟩
    rw [nearest?, if_neg some]
    simp only [small, if_false]

/-- What is rounded on the grid of an exponent is the quotient, measured on that grid. -/
theorem scaled_div (num den : Nat) (e : Int) :
    ((num * twoTo (-e) : Nat) : ℚ) / (den * twoTo e : Nat) = num / den / 2 ^ e := by
  rw [← twoTo_div]
  push_cast
  field_simp

variable {b : Binary} {v : ℚ}

/-- The guessed exponent is that of the number, or one less just below a power of two. -/
theorem Nearest.exponent (near : b.Nearest v) (fits : b.Fits) {k : Int}
    (low : (2 : ℚ) ^ (k + 52) ≤ v) (high : v < 2 ^ (k + 53)) :
    max (-1074) k = b.q ∨
      (max (-1074) k = b.q - 1 ∧ b.q > -1074 ∧ b.m = hiddenBit ∧ v < hiddenBit * 2 ^ b.q) := by
  have posQ : (0 : ℚ) < 2 ^ b.q := by positivity
  have bits : (b.m : ℚ) + 1 ≤ 2 ^ 53 := by exact_mod_cast fits.bits
  have most : k ≤ b.q := by
    have below : (2 : ℚ) ^ (k + 52) < 2 ^ (b.q + 53) := by
      calc (2 : ℚ) ^ (k + 52) ≤ (b.m + 1 / 2) * 2 ^ b.q := low.trans near.high
        _ < 2 ^ 53 * 2 ^ b.q := by gcongr; linarith
        _ = 2 ^ (b.q + 53) := by rw [zpow_add₀ two_ne_zero]; norm_num; ring
    have := (zpow_lt_zpow_iff_right₀ one_lt_two).mp below
    omega
  have least := fits.least
  rcases fits.normal with normal | zero
  · have normalQ : (2 : ℚ) ^ 52 ≤ b.m := by exact_mod_cast normal
    have above : (2 : ℚ) ^ (b.q + 51) < 2 ^ (k + 53) := by
      calc (2 : ℚ) ^ (b.q + 51) = 2 ^ 51 * 2 ^ b.q := by rw [zpow_add₀ two_ne_zero]; norm_num; ring
        _ < (b.m - if b.narrow then 1 / 4 else 1 / 2) * 2 ^ b.q := by
            gcongr
            split <;> linarith
        _ ≤ v := near.low
        _ < 2 ^ (k + 53) := high
    have := (zpow_lt_zpow_iff_right₀ one_lt_two).mp above
    by_cases same : max (-1074) k = b.q
    · exact .inl same
    · have last : k = b.q - 1 := by omega
      have under : v < hiddenBit * 2 ^ b.q := by
        refine high.trans_eq ?_
        rw [last, show b.q - 1 + 53 = b.q + 52 by ring, zpow_add₀ two_ne_zero]
        norm_num [hiddenBit]
        ring
      have top : b.m = hiddenBit := by
        have lower := near.low.trans_lt under
        rw [mul_lt_mul_iff_left₀ posQ] at lower
        have : (b.m : ℚ) < hiddenBit + 1 := by
          refine lt_of_sub_pos ?_
          split at lower <;> linarith
        have : b.m < hiddenBit + 1 := by exact_mod_cast this
        omega
      exact .inr ⟨by omega, by omega, top, under⟩
  · left
    omega

theorem Nearest.roundsTo (near : b.Nearest v) : RoundsTo (v / 2 ^ b.q) b.m := by
  have posQ : (0 : ℚ) < 2 ^ b.q := by positivity
  refine ⟨?_, ?_, fun odd => ?_⟩
  · rw [le_div_iff₀ posQ]
    refine le_trans ?_ near.low
    gcongr
    split <;> norm_num
  · rw [div_le_iff₀ posQ]
    exact near.high
  · rw [lt_div_iff₀ posQ, div_lt_iff₀ posQ]
    exact near.ends odd

/-- Just below a power of two the significand is rounded up to the next power of two. -/
theorem Nearest.roundsTo_carry (near : b.Nearest v) (narrow : b.narrow = true)
    (under : v < hiddenBit * 2 ^ b.q) : RoundsTo (v / 2 ^ (b.q - 1)) (2 * hiddenBit) := by
  have top : b.m = hiddenBit := by
    simp only [Binary.narrow, Bool.and_eq_true, beq_iff_eq] at narrow
    exact narrow.1
  have posQ : (0 : ℚ) < 2 ^ b.q := by positivity
  have low := near.low
  rw [if_pos narrow, top] at low
  have half : v / 2 ^ (b.q - 1) = 2 * (v / 2 ^ b.q) := by
    rw [zpow_sub₀ two_ne_zero]
    field_simp
  rw [half]
  rw [← le_div_iff₀ posQ] at low
  rw [← div_lt_iff₀ posQ] at under
  refine ⟨?_, ?_, fun odd => absurd odd (by decide)⟩
  · push_cast
    linarith
  · push_cast
    linarith

/-- A quotient that is nearest to a number is rounded to its magnitude. -/
theorem nearest?_eq (fits : b.Fits) {num den : Nat} (posNum : 0 < num) (posDen : 0 < den)
    (near : b.Nearest (num / den)) :
    nearest? false num den = some (Float.ofBits b.magnitude.toUInt64) := by
  obtain ⟨k, low, high, rounded⟩ := exists_exponent posNum posDen
  rw [rounded]
  dsimp only
  have posDen' {e : Int} : 0 < den * twoTo e := Nat.mul_pos posDen (twoTo_pos e)
  have bits := fits.bits
  have least := fits.least
  have most := fits.most
  have unsigned (u : UInt64) : signBit false ||| u = u := by
    simp [signBit]
  have bound : ¬(b.magnitude : Int) ≥ 0x7FF0000000000000 := by
    simp only [Binary.magnitude, hiddenBit] at bits ⊢
    omega
  obtain same | ⟨less, large, top, under⟩ := near.exponent fits low high
  · have significand : roundQuotient (num * twoTo (-b.q)) (den * twoTo b.q) = b.m := by
      refine roundQuotient_eq posDen' ?_
      rw [scaled_div]
      exact near.roundsTo
    have magnitude : (if b.m < hiddenBit then (b.m : Int)
        else (b.q + 1074) * hiddenBit + b.m) = b.magnitude := by
      unfold Binary.magnitude
      split
      next low =>
        have zero : b.q = -1074 := fits.normal.resolve_left (Nat.not_le.mpr low)
        simp [zero]
      next =>
        push_cast
        rw [Int.toNat_of_nonneg (by omega)]
    rw [same, significand, magnitude, if_neg bound, unsigned, Int.toNat_natCast]
  · have narrow : b.narrow = true := by simp [Binary.narrow, top, large]
    have significand : roundQuotient (num * twoTo (-(b.q - 1))) (den * twoTo (b.q - 1)) =
        2 * hiddenBit := by
      refine roundQuotient_eq posDen' ?_
      rw [scaled_div]
      exact near.roundsTo_carry narrow under
    have magnitude : (if 2 * hiddenBit < hiddenBit then ((2 * hiddenBit : Nat) : Int)
        else (b.q - 1 + 1074) * hiddenBit + (2 * hiddenBit : Nat)) = b.magnitude := by
      rw [if_neg (by decide), Binary.magnitude, top]
      push_cast
      rw [Int.toNat_of_nonneg (by omega)]
      ring
    rw [less, significand, magnitude, if_neg bound, unsigned, Int.toNat_natCast]

end Binary

end PuzzleWorlds
