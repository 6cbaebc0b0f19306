import PuzzleWorlds.Proofs.FloatProduct
import PuzzleWorlds.Proofs.FloatTexts

/-! Sums of floats that cancel. A float and its negative, or a float less itself, make a zero, or no
number if the float is not finite; and adding a zero changes nothing but the sign of a zero. So a
place that is left and gone to again is met exactly, as far as a distance can tell. -/

namespace PuzzleWorlds

open Float.Model (pack)
open Float.Model.UnpackedFloat hiding pack

theorem add_eq_pack (x y : Float) :
    x + y = .ofModel (pack (add .binary64 x.toModel.unpack y.toModel.unpack)) := rfl

theorem sub_eq_pack (x y : Float) :
    x - y = .ofModel (pack (sub .binary64 x.toModel.unpack y.toModel.unpack)) := rfl

theorem isNaN_iff {x : Float} : x.isNaN = true ↔ x = 0.0 / 0.0 := by
  have whole := eq_ofModel_pack x
  change x.toModel.unpack.isNaN = true ↔ _
  constructor
  · intro nan
    cases kind : x.toModel.unpack with
    | notANumber =>
      rw [kind] at whole
      exact whole
    | infinity _ | zero _ | finite =>
      rw [kind] at nan
      cases nan
  · rintro rfl
    rfl

theorem not_nan_lt (y : Float) : ¬0.0 / 0.0 < y := by
  rw [lt_iff_unpack]
  exact nofun

theorem not_lt_nan (y : Float) : ¬y < 0.0 / 0.0 := by
  rw [lt_iff_unpack]
  cases y.toModel.unpack <;> exact nofun

theorem sub_self_of_isFinite {x : Float} (finite : x.isFinite = true) : x - x = 0.0 := by
  rw [sub_eq_pack]
  change x.toModel.unpack.isFinite = true at finite
  cases kind : x.toModel.unpack with
  | notANumber | infinity _ =>
    rw [kind] at finite
    cases finite
  | zero s => cases s <;> rfl
  | finite s m e positive =>
    have cancels : sub .binary64 (.finite s m e positive) (.finite s m e positive) =
        .zero .positive := by
      simp only [sub, Int.sub_self]
      rfl
    rw [cancels]
    rfl

theorem sub_self_cases (x : Float) : x - x = 0.0 ∨ x - x = 0.0 / 0.0 := by
  by_cases finite : x.isFinite = true
  · exact .inl (sub_self_of_isFinite finite)
  · rw [sub_eq_pack]
    change ¬x.toModel.unpack.isFinite = true at finite
    revert finite
    cases x.toModel.unpack with
    | notANumber => exact fun _ => .inr rfl
    | infinity s => cases s <;> exact fun _ => .inr rfl
    | zero s | finite s => exact fun other => absurd rfl other

/-- The negative of a finite float differs from it in the sign only. -/
theorem unpack_neg {x : Float} (finite : x.isFinite = true) :
    (-x).toModel.unpack = x.toModel.unpack.neg := by
  obtain ⟨s, e, f, inside, packed⟩ := Binary.exists_packComponents finite
  have parts : x.toModel.unpack = unpack .binary64 (packComponents .binary64 s e f) :=
    congrArg (unpack .binary64) packed
  have turned : x.toModel.unpack.neg = unpack .binary64 (packComponents .binary64 (-s) e f) := by
    have negative := unpack_packComponents_neg inside f
    rw [parts]
    cases s with
    | positive => exact negative.symm
    | negative =>
      rw [negative]
      cases unpack .binary64 (packComponents .binary64 .positive e f) with
      | notANumber => rfl
      | infinity t | zero t | finite t => cases t <;> rfl
  change unpack .binary64 (Float.Model.UnpackedFloat.pack .binary64 x.toModel.unpack.neg) = _
  rw [turned, pack_unpack_of_valid (valid_packComponents inside (-s) f)]

theorem add_zero_cases (x : Float) :
    x + 0.0 = x ∨ (x + 0.0 = 0.0 ∧ ∃ s, x.toModel.unpack = .zero s) := by
  have whole := eq_ofModel_pack x
  have sum := add_eq_pack x 0.0
  cases kind : x.toModel.unpack with
  | notANumber | infinity _ | finite =>
    rw [kind] at whole sum
    exact .inl (sum.trans whole.symm)
  | zero s =>
    rw [kind] at sum
    cases s <;> exact .inr ⟨sum, _, rfl⟩

theorem zero_add_cases (x : Float) :
    0.0 + x = x ∨ (0.0 + x = 0.0 ∧ ∃ s, x.toModel.unpack = .zero s) := by
  have whole := eq_ofModel_pack x
  have sum := add_eq_pack 0.0 x
  cases kind : x.toModel.unpack with
  | notANumber | infinity _ | finite =>
    rw [kind] at whole sum
    exact .inl (sum.trans whole.symm)
  | zero s =>
    rw [kind] at sum
    cases s <;> exact .inr ⟨sum, _, rfl⟩

theorem nan_add (x : Float) : 0.0 / 0.0 + x = 0.0 / 0.0 := rfl

theorem nan_sub (x : Float) : 0.0 / 0.0 - x = 0.0 / 0.0 := rfl

theorem sub_nan (y : Float) : y - 0.0 / 0.0 = 0.0 / 0.0 := by
  rw [sub_eq_pack]
  cases y.toModel.unpack <;> rfl

/-- A number above zero is its own magnitude, and the sum of nothing and itself. -/
theorem zero_add_abs {x : Float} (above : ¬x ≤ 0) (number : x.isNaN = false) : 0.0 + x.abs = x := by
  have whole := eq_ofModel_pack x
  change x.toModel.unpack.isNaN = false at number
  rw [le_iff_unpack, unpack_zero] at above
  have magnitude : x.abs = .ofModel (pack x.toModel.unpack.abs) := rfl
  cases kind : x.toModel.unpack with
  | notANumber =>
    rw [kind] at number
    cases number
  | zero s =>
    rw [kind] at above
    exact absurd rfl above
  | infinity s =>
    rw [kind] at above whole magnitude
    cases s with
    | negative => exact absurd rfl above
    | positive =>
      rw [magnitude, whole]
      rfl
  | finite s m e positive =>
    rw [kind] at above magnitude
    cases s with
    | negative => exact absurd rfl above
    | positive =>
      have same : x.abs = x := by
        rw [magnitude]
        rw [kind] at whole
        exact whole.symm
      rw [same]
      refine (zero_add_cases x).resolve_right ?_
      rintro ⟨_, s, zero⟩
      rw [kind] at zero
      cases zero

/-- What has no bound is without bound away from any number. -/
theorem abs_sub_of_isInf {x : Float} (infinite : x.isInf = true) (y : Float) :
    (y - x).abs = 1.0 / 0.0 ∨ (y - x).abs = 0.0 / 0.0 := by
  rw [sub_eq_pack]
  change x.toModel.unpack.isInf = true at infinite
  cases kind : x.toModel.unpack with
  | notANumber | zero _ | finite =>
    rw [kind] at infinite
    cases infinite
  | infinity s =>
    have difference : sub .binary64 y.toModel.unpack (.infinity s) = .infinity (-s) ∨
        sub .binary64 y.toModel.unpack (.infinity s) = .notANumber := by
      cases y.toModel.unpack with
      | notANumber => exact .inr rfl
      | infinity t => cases s <;> cases t <;> first | exact .inl rfl | exact .inr rfl
      | zero t => cases s <;> cases t <;> exact .inl rfl
      | finite t => cases s <;> exact .inl rfl
    obtain far | none := difference
    · rw [far]
      cases s <;> exact .inl rfl
    · rw [none]
      exact .inr rfl

/-- No distance can tell the float from its target. -/
inductive Meets (x target : Float) : Prop
  | same (h : x = target)
  | zero (h : x = 0.0) {s : Sign} (target : target.toModel.unpack = .zero s)
  | nan (h : x = 0.0 / 0.0)

namespace Meets

variable {x target : Float}

theorem add_zero (h : Meets x target) : Meets (x + 0.0) target := by
  cases h with
  | same h =>
    subst h
    obtain kept | ⟨lost, s, zero⟩ := add_zero_cases x
    · exact .same kept
    · exact .zero lost zero
  | zero h at_ =>
    subst h
    exact .zero rfl at_
  | nan h =>
    subst h
    exact .nan rfl

theorem distance (h : Meets x target) :
    (x - target).abs = 0.0 ∨ (x - target).abs = 0.0 / 0.0 := by
  cases h with
  | same h =>
    subst h
    obtain zero | nan := sub_self_cases x
    · exact .inl (congrArg Float.abs zero)
    · exact .inr (congrArg Float.abs nan)
  | @zero h s at_ =>
    subst h
    rw [sub_eq_pack, at_]
    cases s <;> exact .inl rfl
  | nan h =>
    subst h
    exact .inr (congrArg Float.abs (nan_sub target))

/-- From zero, or from nowhere, one step of that size. -/
theorem step {x : Float} (start : x = 0.0 ∨ x = 0.0 / 0.0) (target : Float) :
    Meets (x + target) target := by
  obtain rfl | rfl := start
  · obtain kept | ⟨lost, s, zero⟩ := zero_add_cases target
    · exact .same kept
    · exact .zero lost zero
  · exact .nan (nan_add target)

end Meets

namespace Binary

/-- The exact value of a finite float that is not zero has the parts that the float unpacks to. -/
theorem ofFloat?_of_unpack {x : Float} {s : Sign} {m : Nat} {e : Int} {positive : 0 < m}
    (h : x.toModel.unpack = .finite s m e positive) :
    ofFloat? x = some ⟨s.toBitVec.toNat != 0, m, e⟩ := by
  have finite : x.isFinite = true := congrArg Float.Model.UnpackedFloat.isFinite h
  obtain ⟨t, k, f, inside, packed⟩ := exists_packComponents finite
  have parts : unpack .binary64 (packComponents .binary64 t k f) = .finite s m e positive :=
    (congrArg (unpack .binary64) packed).symm.trans h
  have whole : x.toBits.toNat = _ := congrArg BitVec.toNat packed
  rw [toNat_packComponents] at whole
  unfold unpack at parts
  simp only [unpackExponent_packComponents, unpackMantissa_packComponents,
    unpackSign_packComponents, Sign.ofBitVec_toBitVec] at parts
  rw [if_neg inside] at parts
  rw [ofFloat?, if_pos finite, ofBits_eq, whole]
  have mantissa : f.toNat < 2 ^ 52 := f.isLt
  have exponent : k.toNat < 2 ^ 11 := k.isLt
  have sign : t.toBitVec.toNat < 2 := t.toBitVec.isLt
  have high : (t.toBitVec.toNat * 2 ^ 63 + k.toNat * 2 ^ 52 + f.toNat) / 2 ^ 63 =
      t.toBitVec.toNat := by omega
  have middle : (t.toBitVec.toNat * 2 ^ 63 + k.toNat * 2 ^ 52 + f.toNat) / 2 ^ 52 % 2 ^ 11 =
      k.toNat := by omega
  have low : (t.toBitVec.toNat * 2 ^ 63 + k.toNat * 2 ^ 52 + f.toNat) % 2 ^ 52 = f.toNat := by
    omega
  rw [high, middle, low]
  have bias : (Float.Model.Format.binary64.exponentBias : Int) = 1023 := rfl
  rw [bias] at parts
  split at parts
  next zero =>
    split at parts
    next => cases parts
    next =>
      obtain ⟨rfl, rfl, rfl⟩ := Float.Model.UnpackedFloat.finite.inj parts
      subst zero
      rfl
  next nonzero =>
    obtain ⟨rfl, rfl, rfl⟩ := Float.Model.UnpackedFloat.finite.inj parts
    have normal : k.toNat ≠ 0 := fun zero => nonzero (BitVec.eq_of_toNat_eq zero)
    have hidden : (1#1 ++ f).toNat = hiddenBit + f.toNat := by
      rw [BitVec.toNat_append, Nat.shiftLeft_eq, Nat.mul_comm,
        ← Nat.two_pow_add_eq_or_of_lt mantissa]
      rfl
    rw [if_neg normal, hidden]
    rfl

end Binary

end PuzzleWorlds
