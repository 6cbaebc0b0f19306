import PuzzleWorlds.Proofs.RecordedActions

/-! Worlds that add numbers up. A timeline adds its beats, and a stage its steps and turns, as whole
numbers until a float comes and as floats from then on; a recorded action is taken exactly if the
sums that it leads to can be computed and, where a message tells them, written. -/

namespace PuzzleWorlds

namespace Binary

/-- Whether a quotient is within the range of floats does not depend on its sign. -/
theorem nearest?_isSome (negative : Bool) (num den : Nat) :
    (nearest? negative num den).isSome = (nearest? false num den).isSome := by
  unfold nearest?
  split
  next => rfl
  next =>
    dsimp only
    rw [apply_ite Option.isSome, apply_ite Option.isSome]
    simp only [Option.isSome_some]

theorem nearestInt?_natAbs (n : Int) :
    (nearestInt? n.natAbs).isSome = (nearestInt? n).isSome := by
  rw [nearestInt?, nearestInt?, nearest?_isSome, nearest?_isSome (n < 0), Int.natAbs_natCast]

end Binary

namespace Value

theorem add_float (x y : Float) :
    operation .add (.float x) (.float y) = .ok (.float (x + y)) := rfl

/-- Beside a float a whole number has to be within the range of floats. -/
theorem add_int_float (n : Int) (x : Float) : operation .add (.int n) (.float x) =
    match Binary.nearestInt? n with
    | some y => .ok (.float (y + x))
    | none => .error .intTooLarge := by
  have sum : operate .add (.int n) (.float x) =
    (intToFloat n).bind fun y => floatOperation .add y x := rfl
  unfold operation
  rw [sum, intToFloat]
  cases Binary.nearestInt? n <;> rfl

theorem add_float_int (x : Float) (n : Int) : operation .add (.float x) (.int n) =
    match Binary.nearestInt? n with
    | some y => .ok (.float (x + y))
    | none => .error .intTooLarge := by
  have sum : operate .add (.float x) (.int n) =
    (intToFloat n).bind fun y => floatOperation .add x y := rfl
  unfold operation
  rw [sum, intToFloat]
  cases Binary.nearestInt? n <;> rfl

theorem mod_float_360 (x : Float) : ∃ y, operation .mod (.float x) 360 = .ok (.float y) := by
  have divisor : toFloat 360 = .ok 360.0 := rfl
  have rest : operate .mod (.float x) 360 =
    (toFloat 360).bind fun y => floatOperation .mod x y := rfl
  unfold operation
  rw [rest, divisor]
  exact ⟨_, rfl⟩

/-- The numbers can be added one after another from `v` on, and each sum satisfies `P`. -/
def AddsUp (P : Value → Prop) : Value → List Value → Prop
  | _, [] => True
  | v, n :: rest => ∃ sum, operation .add v n = .ok sum ∧ P sum ∧ AddsUp P sum rest

/-- The value can be written in a message. -/
def Writable (v : Value) : Prop := ∃ text, v.written = .ok text

theorem writable_float (x : Float) : (float x).Writable := ⟨_, rfl⟩

end Value

namespace Domain

variable {d : Domain}

end Domain

namespace Music

end Music

namespace Sprite

/-- A rotation and the sum of all turns: whole numbers, the first below a full turn, or both floats
once a turn was one. -/
inductive Turned : Value → Value → Prop
  | ints {r t : Int} : 0 ≤ r → r < 360 → Turned (.int r) (.int t)
  | floats (r t : Float) : Turned (.float r) (.float t)

theorem orElse_plain {v : Value} (h : v.Plain) : (v.orElse 0).Plain := by
  unfold Value.orElse
  split
  next => exact h
  next => exact .int 0

theorem nearestInt?_of_lt {r : Int} (low : 0 ≤ r) (high : r < 360) :
    ∃ x, Binary.nearestInt? r = some x := by
  have all : ∀ r : Fin 360, (Binary.nearestInt? (r : Nat)).isSome = true := by decide +kernel
  have here := all ⟨r.toNat, by omega⟩
  rw [Int.toNat_of_nonneg low] at here
  exact Option.isSome_iff_exists.mp here

/-- A turn fails exactly if the sum of all turns does: the rotation alone is below a full turn while
it is a whole number, and a float whenever the sum is. -/
theorem World.rotate_plain {w : World} (turned : Turned w.rotation w.totalRotation)
    {degrees : Value} (h : degrees.Plain) :
    match Value.operation .add w.totalRotation (degrees.orElse 0).absolute with
    | .ok sum => ∃ rotation changes, Turned rotation sum ∧
      w.rotate degrees = .ok (.changed { w with rotation, totalRotation := sum } changes)
    | .error _ => ∀ r, w.rotate degrees ≠ .ok r := by
  have plain := orElse_plain h
  unfold rotate
  dsimp only
  generalize w.rotation = r, w.totalRotation = t at turned ⊢
  generalize degrees.orElse 0 = n at plain ⊢
  cases turned with
  | @ints r t low high =>
    cases plain with
    | int n =>
      refine ⟨.int ((r + n).fmod 360), _, .ints ?_ ?_, rfl⟩
      · exact Int.fmod_nonneg_of_pos _ (by decide)
      · exact Int.fmod_lt_of_pos _ (by decide)
    | float x =>
      -- both become floats now, which can fail for the sum of turns only
      obtain ⟨y, near⟩ := nearestInt?_of_lt low high
      obtain ⟨z, rest⟩ := Value.mod_float_360 (y + x)
      rw [Value.absolute, Value.add_int_float, Value.add_int_float, near]
      dsimp only
      rw [ok_bind, rest, ok_bind]
      cases Binary.nearestInt? t with
      | none => exact fun _ => nofun
      | some s => exact ⟨_, _, .floats _ _, rfl⟩
  | floats r t =>
    cases plain with
    | int n =>
      have magnitude : (Value.int n).absolute = .int n.natAbs := rfl
      have same := Binary.nearestInt?_natAbs n
      rw [magnitude, Value.add_float_int, Value.add_float_int]
      cases far : Binary.nearestInt? n with
      | none =>
        rw [far, Option.isSome_none, Option.isSome_eq_false_iff, Option.isNone_iff_eq_none] at same
        rw [same]
        exact fun _ => nofun
      | some x =>
        rw [far, Option.isSome_some] at same
        obtain ⟨y, near⟩ := Option.isSome_iff_exists.mp same
        obtain ⟨z, rest⟩ := Value.mod_float_360 (r + x)
        rw [near]
        dsimp only
        rw [ok_bind, rest, ok_bind]
        exact ⟨_, _, .floats _ _, rfl⟩
    | float x =>
      obtain ⟨z, rest⟩ := Value.mod_float_360 (r + x)
      rw [Value.absolute, Value.add_float, Value.add_float, ok_bind, rest, ok_bind]
      exact ⟨_, _, .floats _ _, rfl⟩

theorem World.scale_recorded (w : World) {percent : Value} (plain : percent.Plain)
    (positive : percent.isNotPositive = false) : ∃ changes,
    w.scale percent = .ok (.changed { w with scalePercent := percent } changes) := by
  have order : Value.ordered .le percent 0 =
      .ok (Value.Comparison.le.holds (Value.compareNumbers? percent 0)) := by
    cases plain <;> rfl
  have present : percent.isNull = false := by cases plain <;> rfl
  have above : Value.Comparison.le.holds (Value.compareNumbers? percent 0) = false := by
    unfold Value.isNotPositive Value.isNegative at positive
    revert positive
    cases Value.compareNumbers? percent 0 with
    | none => exact fun _ => rfl
    | some o => cases o <;> simp [Value.Comparison.holds]
  unfold scale
  rw [present, order, above]
  exact ⟨_, rfl⟩

/-- The numbers that the actions of a kind give, in their order. -/
def numbers (k : ActionKind) (f : Payload → Value) (t : Trace) : List Value :=
  (t.filter fun a => a.kind == k).map fun a => f a.payload

/-- The steps of a trace can be added to the place of the figure, each sum being one that a message
can tell, and its turns to the sum of all turns. -/
def World.AddsUp (w : World) (t : Trace) : Prop :=
  Value.AddsUp Value.Writable w.x (numbers .move (fun p => p.dx.orElse 0) t) ∧
  Value.AddsUp Value.Writable w.y (numbers .move (fun p => p.dy.orElse 0) t) ∧
  Value.AddsUp (fun _ => True) w.totalRotation
    (numbers .rotate (fun p => (p.degrees.orElse 0).absolute) t)

theorem World.react_move {w v : World} {dx dy : Value} :
    (∃ changes, Domain.react .sprite w (.move dx dy 0) = .ok (.changed v changes)) ↔
      ∃ x y, Value.operation .add w.x (dx.orElse 0) = .ok x ∧
        Value.operation .add w.y (dy.orElse 0) = .ok y ∧ x.Writable ∧ y.Writable ∧
        v = { w with x, y } := by
  have moved : Domain.react .sprite w (.move dx dy 0) =
    (Value.operation .add w.x (dx.orElse 0) >>= fun x =>
      Value.operation .add w.y (dy.orElse 0) >>= fun y =>
      x.written >>= fun left => y.written >>= fun right =>
      .ok (.changed { w with x, y } [s!"{w.spriteId} moved to ({left}, {right})"])) := rfl
  rw [moved]
  constructor
  · rintro ⟨changes, taken⟩
    obtain ⟨x, across, taken⟩ := bind_eq_ok.mp taken
    obtain ⟨y, down, taken⟩ := bind_eq_ok.mp taken
    obtain ⟨left, shown, taken⟩ := bind_eq_ok.mp taken
    obtain ⟨right, shown', taken⟩ := bind_eq_ok.mp taken
    cases taken
    exact ⟨x, y, across, down, ⟨left, shown⟩, ⟨right, shown'⟩, rfl⟩
  · rintro ⟨x, y, across, down, ⟨left, shown⟩, ⟨right, shown'⟩, rfl⟩
    rw [across, ok_bind, down, ok_bind, shown, ok_bind, shown', ok_bind]
    exact ⟨_, rfl⟩

end Sprite

end PuzzleWorlds
