import Mathlib

/-! Products of floats. A float is its bits, and a product is what rounding, packing and unpacking
leave of the exact product of two significands. For pauses it is enough to know that a factor of at
most one leads nowhere beyond the finite floats, and that nothing below zero comes of two factors
that are not below zero. -/

namespace PuzzleWorlds

open Float.Model Float.Model.UnpackedFloat

theorem unpack_zero : (0 : Float).toModel.unpack = .zero .positive := rfl

theorem le_iff_unpack {x y : Float} :
    x ≤ y ↔ x.toModel.unpack.le y.toModel.unpack = true := decide_eq_true_iff

theorem lt_iff_unpack {x y : Float} :
    x < y ↔ x.toModel.unpack.lt y.toModel.unpack = true := decide_eq_true_iff

namespace Rounding

/-- The exact number behind an extended mantissa is at most `a`. -/
def AtMost (em : ExtendedMantissa) (a : Nat) : Prop :=
  em.mantissa < a ∨ (em.mantissa = a ∧ em.roundBit = false ∧ em.stickyBit = false)

/-- What is at most a whole number is not rounded beyond it. -/
theorem AtMost.rounded {em : ExtendedMantissa} {a : Nat} (h : AtMost em a) :
    em.roundedMantissa ≤ a := by
  obtain ⟨m, round, sticky⟩ := em
  rcases h with below | ⟨same, exact, exact'⟩
  · have next : ExtendedMantissa.roundedMantissa ⟨m, round, sticky⟩ ≤ m + 1 := by
      cases round <;> cases sticky <;>
        simp only [ExtendedMantissa.roundedMantissa, ExtendedMantissa.accuracy,
          Accuracy.roundToNearestEven] <;> omega
    exact Nat.le_trans next below
  · dsimp only at same exact exact'
    subst same exact exact'
    exact Nat.le_refl m

theorem log2_le {m n : Nat} (h : m < 2 ^ (n + 1)) : m.log2 ≤ n := by
  by_cases zero : m = 0
  · subst zero
    exact Nat.zero_le n
  · exact Nat.le_of_lt_succ ((Nat.log2_lt zero).mpr h)

end Rounding

/-- Only the highest exponent stands for what is not finite. -/
theorem isFinite_unpack_packComponents {s : Sign} {e : BitVec 11} (h : e ≠ -1#11) (f : BitVec 52) :
    (unpack .binary64 (packComponents .binary64 s e f)).isFinite = true := by
  unfold UnpackedFloat.unpack
  dsimp only
  rw [unpackExponent_packComponents, if_neg h]
  split
  next =>
    split
    next => rfl
    next => rfl
  next => rfl

/-- A float that is a number is equal to itself. -/
theorem unpack_compare_self {x : Float} (number : x.isNaN = false) :
    x.toModel.unpack.compare x.toModel.unpack = some .eq := by
  change x.toModel.unpack.isNaN = false at number
  cases h : x.toModel.unpack with
  | notANumber =>
    rw [h] at number
    cases number
  | infinity s => cases s <;> rfl
  | zero _ => rfl
  | finite s m e positive =>
    have exponents : compare e e = .eq := Std.ReflCmp.compare_self
    have significands : compare m m = .eq := Std.ReflCmp.compare_self
    have parts : (compare e e).then (compare m m) = .eq := by
      rw [exponents, significands]
      rfl
    cases s with
    | positive => exact congrArg some parts
    | negative => exact congrArg (fun o => some o.swap) parts

theorem isNaN_of_isFinite {x : Float} (finite : x.isFinite = true) : x.isNaN = false := by
  change x.toModel.unpack.isFinite = true at finite
  change x.toModel.unpack.isNaN = false
  cases h : x.toModel.unpack with
  | notANumber =>
    rw [h] at finite
    cases finite
  | infinity _ | zero _ | finite => rfl

theorem isFinite_of_bounded {x : Float} (number : x.isNaN = false) (bounded : x.isInf = false) :
    x.isFinite = true := by
  change x.toModel.unpack.isNaN = false at number
  change x.toModel.unpack.isInf = false at bounded
  change x.toModel.unpack.isFinite = true
  cases kind : x.toModel.unpack with
  | notANumber =>
    rw [kind] at number
    cases number
  | infinity _ =>
    rw [kind] at bounded
    cases bounded
  | zero _ | finite => rfl

end PuzzleWorlds
