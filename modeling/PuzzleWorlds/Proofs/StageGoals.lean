import PuzzleWorlds.Proofs.AlreadySolved
import PuzzleWorlds.Proofs.FloatSums
import PuzzleWorlds.Proofs.UnjudgedGoals

/-! Goals of the stage within reach. The figure is brought to any spot by going back to where the
stage begins and from there to the spot, as near as floats can tell; it turns by as much as is asked
for, and takes the size that is asked for. What no number can be compared with stays out of reach,
and so does an action that the log does not keep. -/

namespace PuzzleWorlds

namespace Value

/-- A float that is no number. -/
def IsNaN (v : Value) : Prop := ∃ x, v = .float x ∧ x.isNaN = true

theorem compare_nan_left {v : Value} (plain : v.Plain) :
    compareNumbers? (.float (0.0 / 0.0)) v = none := by
  cases plain with
  | int n => rfl
  | float y =>
    have equal : ((0.0 / 0.0 : Float) == y) = false := rfl
    simp only [compareNumbers?, not_nan_lt, not_lt_nan, equal, if_false, Bool.false_eq_true]

theorem compare_nan_right {v : Value} (plain : v.Plain) :
    compareNumbers? v (.float (0.0 / 0.0)) = none := by
  cases plain with
  | int n => rfl
  | float y =>
    have equal : (y == (0.0 / 0.0 : Float)) = false := by
      change (y.toModel.unpack.compare _ == some .eq) = false
      cases y.toModel.unpack <;> rfl
    simp only [compareNumbers?, not_nan_lt, not_lt_nan, equal, if_false, Bool.false_eq_true]

/-- Numbers are equal to themselves. -/
theorem compare_self {v : Value} (plain : v.Plain) (number : ¬v.IsNaN) :
    compareNumbers? v v = some .eq := by
  cases plain with
  | int n => exact congrArg some Std.ReflCmp.compare_self
  | float x =>
    have same := unpack_compare_self (x := x)
      (Bool.eq_false_iff.mpr fun nan => number ⟨x, rfl, nan⟩)
    have below : ¬x < x := by
      rw [lt_iff_unpack]
      change ¬(x.toModel.unpack.compare x.toModel.unpack == some .lt) = true
      rw [same]
      exact nofun
    have equal : (x == x) = true := by
      change (x.toModel.unpack.compare x.toModel.unpack == some .eq) = true
      rw [same]
      rfl
    simp only [compareNumbers?, below, equal, if_false, if_true]

/-- Zero lies below such a number or is equal to it, if that is a number. -/
theorem NotBelowZero.order {v : Value} (h : v.NotBelowZero) :
    compareNumbers? (.float 0.0) v = some .lt ∨ compareNumbers? (.float 0.0) v = some .eq ∨
      (v.IsNaN ∧ compareNumbers? (.float 0.0) v = none) := by
  cases v with
  | int n =>
    have low : 0 ≤ n := h
    have exact : compareNumbers? (.float 0.0) (.int n) =
        some (compare (n * (twoTo 1074 : Int)) 0).swap := rfl
    have one : (0 : Int) < twoTo 1074 := Int.natCast_pos.mpr (twoTo_pos 1074)
    rw [exact]
    rcases Int.le_iff_eq_or_lt.mp low with rfl | positive
    · exact .inr (.inl (by rw [Int.zero_mul]; rfl))
    · exact .inl (by rw [Int.compare_eq_gt.mpr (Int.mul_pos positive one)]; rfl)
  | float x =>
    have above : ¬x < 0 := h
    have whole := eq_ofModel_pack x
    rw [lt_iff_unpack, unpack_zero] at above
    cases kind : x.toModel.unpack with
    | notANumber =>
      rw [kind] at whole
      subst whole
      exact .inr (.inr ⟨⟨_, rfl, rfl⟩, rfl⟩)
    | infinity s =>
      rw [kind] at whole above
      subst whole
      cases s with
      | positive => exact .inl rfl
      | negative => exact absurd rfl above
    | zero s =>
      rw [kind] at whole
      subst whole
      cases s <;> exact .inr (.inl rfl)
    | finite s m e positive =>
      rw [kind] at above
      cases s with
      | negative => exact absurd rfl above
      | positive =>
        have below : (0.0 : Float) < x := by
          rw [lt_iff_unpack, kind]
          rfl
        exact .inl (if_pos below)
  | null | bool _ | text _ | list _ | tuple _ | dict _ | record _ => exact h.elim

theorem NotBelowZero.within {v : Value} (h : v.NotBelowZero) (number : ¬v.IsNaN) :
    Comparison.le.holds (compareNumbers? (.float 0.0) v) = true := by
  obtain order | order | ⟨nan, _⟩ := h.order
  · rw [order]
    rfl
  · rw [order]
    rfl
  · exact absurd nan number

/-- Whatever is not a zero counts. -/
theorem truthy_float {x : Float} (nonzero : ∀ s, x.toModel.unpack ≠ .zero s) :
    (float x).truthy = true := by
  have unequal : (x == 0) = false := by
    change (x.toModel.unpack.compare (.zero .positive) == some .eq) = false
    cases kind : x.toModel.unpack with
    | notANumber | finite s => first | rfl | cases s <;> rfl
    | infinity s => cases s <;> rfl
    | zero s => exact absurd kind (nonzero s)
  change (!(x == 0)) = true
  rw [unequal]
  rfl

theorem NotUpToZero.positive {v : Value} (h : v.NotUpToZero) : v.isNotPositive = false := by
  have above := h.not_reached
  have turned : compareNumbers? v 0 = (compareNumbers? 0 v).map Ordering.swap := by
    cases h.plain with
    | float x => rfl
    | int n => exact congrArg some Std.OrientedCmp.eq_swap
  unfold isNotPositive isNegative
  rw [turned]
  revert above
  cases compareNumbers? 0 v with
  | none => exact fun _ => rfl
  | some o => cases o <;> simp [Comparison.holds]

/-- The magnitude of such a number, added to nothing, is the number. -/
theorem NotUpToZero.zero_add {v : Value} (h : v.NotUpToZero) (number : ¬v.IsNaN) :
    operation .add 0 (v.orElse 0).absolute = .ok v := by
  cases v with
  | int n =>
    have positive : 0 < n := h
    have magnitude : (Value.int n).absolute = .int n.natAbs := rfl
    rw [orElse_int, magnitude, Int.natAbs_of_nonneg (Int.le_of_lt positive)]
    exact congrArg (fun n => Except.ok (Value.int n)) (Int.zero_add n)
  | float x =>
    have above : ¬x ≤ 0 := h
    have same := zero_add_abs above (Bool.eq_false_iff.mpr fun nan => number ⟨x, rfl, nan⟩)
    have counts : (Value.float x).truthy = true := by
      refine truthy_float fun s zero => above ?_
      rw [le_iff_unpack, unpack_zero, zero]
      rfl
    have magnitude : (Value.float x).absolute = .float x.abs := rfl
    have sum : operation .add (.int 0) (.float x.abs) = .ok (.float (0.0 + x.abs)) :=
      add_int_float 0 x.abs
    rw [same] at sum
    rw [orElse_of_truthy counts, magnitude]
    exact sum
  | null | bool _ | text _ | list _ | tuple _ | dict _ | record _ => exact h.elim

/-- A number that a message can tell. -/
def Told (v : Value) : Prop := v.Plain ∧ v.Writable

/-- Where a figure is that has gone back: at nothing, or nowhere if it was not at a number. -/
inductive Back : Value → Prop
  | whole : Back (.int 0)
  | zero : Back (.float 0.0)
  | nan : Back (.float (0.0 / 0.0))

/-- No distance of the number from the target is seen. -/
structure StandsAt (target : Float) (v : Value) : Prop where
  told : v.Told
  meets : ∃ x, v.toFloat = .ok x ∧ Meets x target

theorem told_float (x : Float) : (float x).Told := ⟨.float x, writable_float x⟩

theorem writable_int {n : Int} (short : n.natAbs < tenTo maxNumeralDigits) : (int n).Writable :=
  ⟨intText n, by rw [written, if_pos short]⟩

theorem told_zero : (int 0).Told := ⟨.int 0, writable_int (tenTo_pos _)⟩

theorem Back.told {v : Value} (h : v.Back) : v.Told := by
  cases h with
  | whole => exact told_zero
  | zero => exact told_float _
  | nan => exact told_float _

theorem Meets.standsAt {x target : Float} (h : Meets x target) : (float x).StandsAt target :=
  ⟨told_float x, x, rfl, h⟩

/-- Adding nothing changes the sign of a zero at most. -/
theorem Plain.add_zero {v : Value} (h : v.Plain) :
    operation .add v 0 = .ok v ∨
      ∃ x, v = .float x ∧ operation .add v 0 = .ok (.float (x + 0.0)) := by
  cases h with
  | int n => exact .inl (congrArg (fun n => Except.ok (Value.int n)) (Int.add_zero n))
  | float x => exact .inr ⟨x, rfl, rfl⟩

theorem Back.exists_step {r : Value} (h : r.Back) (target : Float) :
    ∃ n v : Value, n.Plain ∧ operation .add r (n.orElse 0) = .ok v ∧ v.StandsAt target := by
  -- a step by a zero does not count, whatever its sign: it is one by nothing
  by_cases zero : ∃ s, target.toModel.unpack = .zero s
  · obtain ⟨s, zero⟩ := zero
    cases h with
    | whole => exact ⟨.int 0, _, .int 0, rfl, told_zero, 0.0, rfl, .zero rfl zero⟩
    | zero => exact ⟨.int 0, _, .int 0, rfl, Meets.standsAt (x := 0.0) (.zero rfl zero)⟩
    | nan => exact ⟨.int 0, _, .int 0, rfl, Meets.standsAt (x := 0.0 / 0.0) (.nan rfl)⟩
  · have counts : (Value.float target).truthy = true := truthy_float fun s same => zero ⟨s, same⟩
    have step {x : Float} (start : x = 0.0 ∨ x = 0.0 / 0.0)
        (sum : operation .add r (.float target) = .ok (.float (x + target))) :
        ∃ n v : Value, n.Plain ∧ operation .add r (n.orElse 0) = .ok v ∧ v.StandsAt target := by
      refine ⟨.float target, _, .float target, ?_, Meets.standsAt (Meets.step start target)⟩
      rw [orElse_of_truthy counts, sum]
    cases h with
    | whole => exact step (x := 0.0) (.inl rfl) (add_int_float 0 target)
    | zero => exact step (x := 0.0) (.inl rfl) (add_float _ target)
    | nan => exact step (x := 0.0 / 0.0) (.inr rfl) (add_float _ target)

end Value

theorem asNumber_of_plain {what : String} {v : Value} (h : v.Plain) : asNumber what v = .ok v := by
  cases h with
  | int n => rfl
  | float x => rfl

namespace Sprite

/-- The calls of a program that record the trace take the figure from one world to the other. -/
def Goes (w : World) (t : Trace) (v : World) : Prop := ∃ cs, Domain.Steers .sprite () w cs t () v

namespace Goes

variable {w v u : World} {t t' : Trace}

theorem trans (h : Goes w t v) (h' : Goes v t' u) : Goes w (t ++ t') u := by
  obtain ⟨cs, first⟩ := h
  obtain ⟨cs', next⟩ := h'
  exact ⟨cs ++ cs', first.append next⟩

theorem call (c : Command) (args : Arguments) {a : Action} {changes : List String}
    (known : Domain.command? .sprite c.spec.name = some c)
    (bound : c.spec.bind c.spec.name args = .ok args) (called : c.call args = .ok (.acts () a))
    (taken : w.react a = .ok (.changed v changes)) : Goes w [a] v :=
  ⟨_, .call (d := .sprite) known bound called taken⟩

theorem right {n x y : Value} (plain : n.Plain)
    (across : Value.operation .add w.x (n.orElse 0) = .ok x)
    (kept : Value.operation .add w.y 0 = .ok y) (shown : x.Writable) (shown' : y.Writable) :
    Goes w [.move n 0 0] { w with x, y } := by
  have moves : ∃ changes, Domain.react .sprite w (.move n 0 0) =
      .ok (.changed { w with x, y } changes) :=
    World.react_move.mpr ⟨x, y, across, kept, shown, shown', rfl⟩
  obtain ⟨changes, taken⟩ := moves
  refine call .moveRight [n] rfl rfl ?_ taken
  change (asNumber "pixels" n >>= fun n => _) = _
  rw [asNumber_of_plain plain]
  rfl

theorem down {n x y : Value} (plain : n.Plain) (kept : Value.operation .add w.x 0 = .ok x)
    (along : Value.operation .add w.y (n.orElse 0) = .ok y) (shown : x.Writable)
    (shown' : y.Writable) : Goes w [.move 0 n 0] { w with x, y } := by
  have moves : ∃ changes, Domain.react .sprite w (.move 0 n 0) =
      .ok (.changed { w with x, y } changes) :=
    World.react_move.mpr ⟨x, y, kept, along, shown, shown', rfl⟩
  obtain ⟨changes, taken⟩ := moves
  refine call .moveDown [n] rfl rfl ?_ taken
  change (asNumber "pixels" n >>= fun n => _) = _
  rw [asNumber_of_plain plain]
  rfl

theorem rotate {degrees total : Value} (turned : Turned w.rotation w.totalRotation)
    (plain : degrees.Plain)
    (sum : Value.operation .add w.totalRotation (degrees.orElse 0).absolute = .ok total) :
    ∃ rotation, Goes w [.rotate degrees] { w with rotation, totalRotation := total } := by
  have taken := w.rotate_plain turned plain
  rw [sum] at taken
  obtain ⟨rotation, changes, _, taken⟩ := taken
  refine ⟨rotation, call .rotate [degrees] rfl rfl ?_ taken⟩
  change (asNumber "degrees" degrees >>= fun n => _) = _
  rw [asNumber_of_plain plain]
  rfl

theorem scale {percent : Value} (plain : percent.Plain)
    (positive : percent.isNotPositive = false) :
    Goes w [.scale percent] { w with scalePercent := percent } := by
  obtain ⟨changes, taken⟩ := w.scale_recorded plain positive
  refine call .scale [percent] rfl rfl ?_ taken
  change (asNumber "percent" percent >>= fun n => _) = _
  rw [asNumber_of_plain plain, ok_bind, positive]
  rfl

theorem say (s : String) : Goes w [.say s] { w with speech := .text s } :=
  call .say [.text s] rfl rfl rfl rfl

theorem jump : Goes w [.jump] { w with jumps := w.jumps + 1 } := call .jump [] rfl rfl rfl rfl

end Goes

/-- The distance of the size from what is asked for is within the tolerance. -/
def Fits (percent : Float) (tolerance : Value) (x : Float) : Prop :=
  Value.Comparison.le.holds (Value.compareNumbers? (.float (x - percent).abs) tolerance) = true

/-- Some size fits: the percentage and the tolerance are numbers, and both are without bound if the
percentage is. -/
def Suits (percent : Float) (tolerance : Value) : Prop :=
  percent.isNaN = false ∧ ¬tolerance.IsNaN ∧
    (percent.isInf = true → ∃ t, tolerance = .float t ∧ t.isInf = true)

section

variable {percent x : Float} {tolerance : Value}

theorem isInf_of_within (bound : tolerance.Plain) (within : Value.Comparison.le.holds
    (Value.compareNumbers? (.float (1.0 / 0.0)) tolerance) = true) :
    ∃ t, tolerance = .float t ∧ t.isInf = true := by
  cases bound with
  | int n => cases within
  | float t =>
    have whole := eq_ofModel_pack t
    refine ⟨t, rfl, ?_⟩
    change t.toModel.unpack.isInf = true
    cases kind : t.toModel.unpack with
    | infinity s => rfl
    | notANumber =>
      rw [kind] at whole
      subst whole
      cases within
    | zero s =>
      rw [kind] at whole
      subst whole
      cases s <;> cases within
    | finite s m e positive =>
      have below : ¬(1.0 / 0.0 : Float) < t := by
        rw [lt_iff_unpack, kind]
        cases s <;> exact nofun
      have equal : ((1.0 / 0.0 : Float) == t) = false := by
        change (Float.Model.UnpackedFloat.compare _ t.toModel.unpack == some .eq) = false
        rw [kind]
        cases s <;> rfl
      simp only [Value.compareNumbers?, below, equal, if_false, Bool.false_eq_true] at within
      split at within <;> cases within

theorem Fits.suits (fits : Fits percent tolerance x) (bound : tolerance.Plain) :
    Suits percent tolerance := by
  unfold Fits at fits
  refine ⟨Bool.eq_false_iff.mpr fun nan => ?_, ?_, fun infinite => ?_⟩
  · have none : (x - percent).abs = 0.0 / 0.0 := by
      rw [isNaN_iff.mp nan, sub_nan]
      rfl
    rw [none, Value.compare_nan_left bound] at fits
    cases fits
  · rintro ⟨t, rfl, nan⟩
    rw [isNaN_iff.mp nan, Value.compare_nan_right (.float _)] at fits
    cases fits
  · obtain far | none := abs_sub_of_isInf infinite x
    · rw [far] at fits
      exact isInf_of_within bound fits
    · rw [none, Value.compare_nan_left bound] at fits
      cases fits

theorem fits_self (finite : percent.isFinite = true) (bound : tolerance.NotBelowZero)
    (number : ¬tolerance.IsNaN) : Fits percent tolerance percent := by
  have near : (percent - percent).abs = 0.0 := congrArg Float.abs (sub_self_of_isFinite finite)
  unfold Fits
  rw [near]
  exact bound.within number

/-- Where the size and the tolerance are without bound, the size of the start fits. -/
theorem fits_start (infinite : percent.isInf = true) (bound : tolerance.NotBelowZero)
    (unbounded : ∃ t, tolerance = .float t ∧ t.isInf = true) : Fits percent tolerance 100.0 := by
  obtain ⟨t, rfl, infinite'⟩ := unbounded
  have whole := eq_ofModel_pack percent
  have whole' := eq_ofModel_pack t
  have above : ¬t < 0 := bound
  rw [lt_iff_unpack, unpack_zero] at above
  change percent.toModel.unpack.isInf = true at infinite
  change t.toModel.unpack.isInf = true at infinite'
  cases kind : percent.toModel.unpack with
  | notANumber | zero _ | finite =>
    rw [kind] at infinite
    cases infinite
  | infinity s =>
    cases kind' : t.toModel.unpack with
    | notANumber | zero _ | finite =>
      rw [kind'] at infinite'
      cases infinite'
    | infinity s' =>
      rw [kind] at whole
      rw [kind'] at whole' above
      subst whole whole'
      cases s' with
      | negative => exact absurd rfl above
      | positive => cases s <;> rfl

/-- The size itself fits, or that of the start. -/
theorem Suits.fits (suits : Suits percent tolerance) (bound : tolerance.NotBelowZero) :
    Fits percent tolerance percent ∨ Fits percent tolerance 100.0 := by
  obtain ⟨number, number', unbounded⟩ := suits
  by_cases infinite : percent.isInf = true
  · exact .inr (fits_start infinite bound (unbounded infinite))
  · have finite := isFinite_of_bounded number (Bool.eq_false_iff.mpr infinite)
    exact .inl (fits_self finite bound number')

end

end Sprite

end PuzzleWorlds
