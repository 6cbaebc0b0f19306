import PuzzleWorlds.Proofs.FloatProduct
import PuzzleWorlds.Proofs.FloatTexts
import PuzzleWorlds.Proofs.Payload

/-! Whole numbers as floats. A float holds a whole number if the number has at most 53 binary
digits, apart from zeros at its end, and is not beyond the largest float. Exactly these come back
from the decimal that they are written as; any other one comes back as its nearest float, or as
infinity. -/

namespace PuzzleWorlds

open Float.Model (Format)
open Float.Model.UnpackedFloat

/-- A whole number that is a float. -/
def FloatExact (n : Int) : Prop := ∃ m e : Nat, m < 2 ^ 53 ∧ e ≤ 971 ∧ n.natAbs = m * 2 ^ e

theorem FloatExact.lt {n : Int} (h : FloatExact n) {k : Nat} (enough : 1024 ≤ k) :
    n.natAbs < 2 ^ k := by
  obtain ⟨m, e, bits, range, same⟩ := h
  have below : m * 2 ^ e < 2 ^ 53 * 2 ^ e := Nat.mul_lt_mul_of_pos_right bits (Nat.two_pow_pos e)
  rw [← Nat.pow_add, ← same] at below
  exact Nat.lt_of_lt_of_le below (Nat.pow_le_pow_right (by decide) (by omega))

/-- All numbers of 53 digits are floats, and so is the one after them. -/
theorem floatExact_of_le {n : Int} (small : n.natAbs ≤ 2 ^ 53) : FloatExact n := by
  rcases Nat.lt_or_eq_of_le small with less | same
  · exact ⟨n.natAbs, 0, less, Nat.zero_le _, (Nat.mul_one _).symm⟩
  · exact ⟨1, 53, by decide, by decide, same.trans (Nat.one_mul _).symm⟩

namespace Binary

variable {b : Binary} {n : Int}

theorem toInt?_eq_some_iff : b.toInt? = some n ↔ b.ratio.1 = n * b.ratio.2 := by
  have pos : (b.ratio.2 : Int) ≠ 0 := Int.natCast_ne_zero.mpr (Nat.pos_iff_ne_zero.mp b.ratio_pos)
  unfold toInt?
  dsimp only
  constructor
  · intro h
    split at h
    next whole =>
      cases h
      exact (Int.ediv_mul_cancel (Int.dvd_of_emod_eq_zero (by simpa using whole))).symm
    next => cases h
  · intro same
    rw [same, Int.mul_emod_left, Int.mul_ediv_cancel _ pos]
    rfl

/-- The number that a float holds is what its significand and its exponent say. -/
theorem natAbs_of_toInt? (h : b.toInt? = some n) :
    n.natAbs * twoTo (-b.q) = b.m * twoTo b.q := by
  have same := congrArg Int.natAbs (toInt?_eq_some_iff.mp h)
  rw [Int.natAbs_mul] at same
  refine same.symm.trans ?_
  unfold ratio
  dsimp only
  split
  next => rw [Int.natAbs_neg, Int.natAbs_natCast]
  next => rw [Int.natAbs_natCast]

theorem floatExact_of_toInt? (fits : b.Fits) (h : b.toInt? = some n) : FloatExact n := by
  have same := natAbs_of_toInt? h
  have bits : b.m < 2 ^ 53 := fits.bits
  rcases Int.le_total 0 b.q with whole | part
  · obtain ⟨e, exponent⟩ := Int.eq_ofNat_of_zero_le whole
    have one : twoTo (-b.q) = 1 := by rw [exponent, twoTo]; simp
    have scale : twoTo b.q = 2 ^ e := by rw [exponent, twoTo]; rfl
    rw [one, scale, Nat.mul_one] at same
    have most := fits.most
    exact ⟨b.m, e, bits, by omega, same⟩
  · have one : twoTo b.q = 1 := by rw [twoTo, Int.toNat_of_nonpos part]
    rw [one, Nat.mul_one] at same
    have below : n.natAbs ≤ b.m := same ▸ Nat.le_mul_of_pos_right _ (twoTo_pos _)
    exact ⟨n.natAbs, 0, Nat.lt_of_le_of_lt below bits, Nat.zero_le _, (Nat.mul_one _).symm⟩

/-- A number that fits is told by its magnitude. -/
theorem ofBits_of_magnitude {u : UInt64} (fits : b.Fits) (same : u.toNat % 2 ^ 63 = b.magnitude) :
    ofBits u = ⟨u.toNat / 2 ^ 63 != 0, b.m, b.q⟩ := by
  obtain ⟨bits, least, most, normal⟩ := fits
  obtain ⟨sign, m, q⟩ := b
  simp only [magnitude, hiddenBit] at same bits normal least most
  rw [ofBits_eq]
  simp only [hiddenBit]
  rcases normal with normal | rfl
  · have exponent : u.toNat / 2 ^ 52 % 2 ^ 11 = (q + 1074).toNat + 1 := by omega
    have significand : u.toNat % 2 ^ 52 = m - 2 ^ 52 := by omega
    rw [exponent, significand, if_neg (Nat.succ_ne_zero _), Binary.mk.injEq]
    exact ⟨rfl, by omega, by omega⟩
  · rcases Nat.lt_or_ge m (2 ^ 52) with small | large
    · have exponent : u.toNat / 2 ^ 52 % 2 ^ 11 = 0 := by omega
      have significand : u.toNat % 2 ^ 52 = m := by omega
      rw [exponent, significand, if_pos rfl]
    · have exponent : u.toNat / 2 ^ 52 % 2 ^ 11 = 1 := by omega
      have significand : u.toNat % 2 ^ 52 = m - 2 ^ 52 := by omega
      rw [exponent, significand, if_neg Nat.one_ne_zero, Binary.mk.injEq]
      exact ⟨rfl, by omega, rfl⟩

/-- Below infinity all bits are those of a finite float. -/
theorem exists_float_toBits {n : Nat} (small : n < 2047 * 2 ^ 52) (s : Sign) :
    ∃ x : Float, x.isFinite = true ∧ x.toBits.toNat = s.toBitVec.toNat * 2 ^ 63 + n := by
  let e : BitVec 11 := .ofNat 11 (n / 2 ^ 52)
  let f : BitVec 52 := .ofNat 52 (n % 2 ^ 52)
  have exponent : e.toNat = n / 2 ^ 52 := by
    rw [BitVec.toNat_ofNat]
    omega
  have mantissa : f.toNat = n % 2 ^ 52 := by
    rw [BitVec.toNat_ofNat]
    omega
  have inside : e ≠ -1#11 := by
    intro top
    have top : e.toNat = 2047 := congrArg BitVec.toNat top
    omega
  have kept : (Float.ofBits ⟨packComponents .binary64 s e f⟩).toBits =
      ⟨packComponents .binary64 s e f⟩ :=
    congrArg UInt64.ofBitVec (pack_unpack_of_valid (valid_packComponents inside s f))
  refine ⟨Float.ofBits ⟨packComponents .binary64 s e f⟩, ?_, ?_⟩
  · have unpacked : (unpack .binary64 (packComponents .binary64 s e f)).isFinite = true :=
      isFinite_unpack_packComponents inside f
    change (unpack .binary64 (Float.ofBits _).toBits.toBitVec).isFinite = true
    rwa [kept]
  · have whole : (UInt64.ofBitVec (packComponents .binary64 s e f)).toNat = _ :=
      toNat_packComponents s e f
    rw [kept, whole, exponent, mantissa]
    omega

/-- A number that fits is what its magnitude is read as. -/
theorem ofFloat?_magnitude (fits : b.Fits) (negative : Bool) :
    ofFloat? (if negative then -Float.ofBits b.magnitude.toUInt64
      else Float.ofBits b.magnitude.toUInt64) = some ⟨negative, b.m, b.q⟩ := by
  have small : b.magnitude < 2047 * 2 ^ 52 := by
    obtain ⟨bits, _, most, _⟩ := fits
    simp only [magnitude, hiddenBit] at bits ⊢
    omega
  obtain ⟨x, finite, bits⟩ :=
    exists_float_toBits small (if negative then Sign.negative else Sign.positive)
  have sign : (if negative then Sign.negative else Sign.positive).toBitVec.toNat =
      negative.toNat := by
    cases negative <;> rfl
  rw [sign] at bits
  have low : x.toBits.toNat % 2 ^ 63 = b.magnitude := by
    omega
  have top : x.toBits.toNat / 2 ^ 63 = negative.toNat := by
    omega
  have high : (x.toBits.toNat / 2 ^ 63 != 0) = negative := by
    rw [top]
    cases negative <;> rfl
  have whole : ofBits x.toBits = ⟨negative, b.m, b.q⟩ := by
    rw [ofBits_of_magnitude fits low, high]
  have same := eq_ofBits_magnitude finite
  rw [whole] at same
  change x = if negative then -Float.ofBits b.magnitude.toUInt64
    else Float.ofBits b.magnitude.toUInt64 at same
  rw [← same, ofFloat?, if_pos finite, whole]

end Binary

theorem floatExact_of_floatToInt? {x : Float} {n : Int} (h : floatToInt? x = some n) :
    FloatExact n := by
  obtain ⟨b, exact, whole⟩ := Option.bind_eq_some_iff.mp h
  rw [Binary.ofFloat?, Option.ite_none_right_eq_some] at exact
  obtain ⟨finite, same⟩ := exact
  obtain rfl := Option.some.inj same
  exact Binary.floatExact_of_toInt? (Binary.fits_of_isFinite finite) whole

namespace FloatExact

variable {n : Int}

/-- The significand moved up to its full length. -/
theorem exists_binary (h : FloatExact n) (other : n ≠ 0) : ∃ b : Binary,
    b.Fits ∧ 0 < b.m ∧ n.natAbs * twoTo (-b.q) = b.m * twoTo b.q := by
  obtain ⟨m, e, bits, range, same⟩ := h
  have some : m ≠ 0 := by
    rintro rfl
    omega
  obtain ⟨k, length⟩ : ∃ k, m.log2 + k = 52 :=
    ⟨52 - m.log2, Nat.add_sub_cancel' (Rounding.log2_le bits)⟩
  have low : 2 ^ 52 ≤ m * 2 ^ k := by
    rw [← length, Nat.pow_add]
    exact Nat.mul_le_mul_right _ (Nat.log2_self_le some)
  have high : m * 2 ^ k < 2 ^ 53 := by
    have full : m.log2 + 1 + k = 53 := by omega
    rw [← full, Nat.pow_add]
    exact Nat.mul_lt_mul_of_pos_right Nat.lt_log2_self (Nat.two_pow_pos k)
  refine ⟨⟨false, m * 2 ^ k, e - k⟩, ⟨high, ?_, ?_, .inl low⟩, ?_, ?_⟩
  · dsimp only
    omega
  · dsimp only
    omega
  · exact Nat.lt_of_lt_of_le (Nat.two_pow_pos 52) low
  · have shift : e + (-((e : Int) - k)).toNat = k + ((e : Int) - k).toNat := by omega
    change n.natAbs * 2 ^ (-((e : Int) - k)).toNat = m * 2 ^ k * 2 ^ ((e : Int) - k).toNat
    rw [same, Nat.mul_assoc, Nat.mul_assoc, ← Nat.pow_add, ← Nat.pow_add, shift]

/-- A number that is a float is read as that float. -/
theorem exists_decimalFloat (h : FloatExact n) (negative : Bool) : ∃ b : Binary, b.Fits ∧
    n.natAbs * twoTo (-b.q) = b.m * twoTo b.q ∧ decimalFloat negative n.natAbs 0 =
      if negative then -Float.ofBits b.magnitude.toUInt64
      else Float.ofBits b.magnitude.toUInt64 := by
  by_cases zero : n = 0
  · subst zero
    refine ⟨⟨false, 0, -1074⟩, ⟨by decide, by decide, by decide, .inr rfl⟩, ?_,
      decimalFloat_zero negative 0⟩
    simp only [Int.natAbs_zero, Nat.zero_mul]
  obtain ⟨b, fits, pos, same⟩ := h.exists_binary zero
  have value : (n.natAbs : ℚ) * 10 ^ (0 : Int) = b.m * 2 ^ b.q := by
    have cast : (n.natAbs : ℚ) * twoTo (-b.q) = b.m * twoTo b.q := by exact_mod_cast same
    have other : (twoTo (-b.q) : ℚ) ≠ 0 := Nat.cast_ne_zero.mpr (twoTo_pos _).ne'
    rw [zpow_zero, mul_one, ← twoTo_div, mul_div_assoc', eq_div_iff other, cast]
  have near : b.Nearest (n.natAbs * 10 ^ (0 : Int)) := by
    rw [value, ← Decimal.value_exact]
    exact Decimal.nearest_exact b
  exact ⟨b, fits, same, decimalFloat_eq fits pos (by decide) near negative⟩

end FloatExact

/-- A whole number comes back from its decimal exactly if it is a float. -/
theorem floatToInt?_decimalFloat {n : Int} :
    floatToInt? (decimalFloat (n < 0) n.natAbs 0) = some n ↔ FloatExact n := by
  refine ⟨floatExact_of_floatToInt?, fun h => ?_⟩
  obtain ⟨b, fits, same, read⟩ := h.exists_decimalFloat (n < 0)
  rw [read, floatToInt?, Binary.ofFloat?_magnitude fits, Option.bind_some,
    Binary.toInt?_eq_some_iff]
  have cast : (n.natAbs : Int) * twoTo (-b.q) = b.m * twoTo b.q := by exact_mod_cast same
  unfold Binary.ratio
  dsimp only
  push_cast
  rw [← cast]
  by_cases below : n < 0
  · rw [decide_eq_true below, if_pos rfl, ← Int.neg_mul]
    congr 1
    omega
  · rw [decide_eq_false below, if_neg Bool.false_ne_true]
    congr 1
    omega

end PuzzleWorlds
