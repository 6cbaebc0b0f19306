import PuzzleWorlds.Command
import PuzzleWorlds.Reaction
import PuzzleWorlds.Grid

/-! Reading a payload. A handler takes numbers, cells and colors out of values of any kind; each of
these readings either fails or gives a number that the handler can go on with. -/

namespace PuzzleWorlds

theorem bind_eq_ok {x : Except ε α} {f : α → Except ε β} {b : β} :
    x >>= f = .ok b ↔ ∃ a, x = .ok a ∧ f a = .ok b := by
  cases x with
  | error e => exact iff_of_false nofun nofun
  | ok a => exact ⟨fun h => ⟨a, rfl, h⟩, fun ⟨_, same, h⟩ => Except.ok.inj same ▸ h⟩

theorem bind_eq_error {x : Except ε α} {f : α → Except ε β} {e : ε} :
    x >>= f = .error e ↔ x = .error e ∨ ∃ a, x = .ok a ∧ f a = .error e := by
  cases x with
  | error e' =>
    refine ⟨fun h => .inl (Except.error.inj h ▸ rfl), fun h => ?_⟩
    obtain same | ⟨_, same, _⟩ := h
    · cases same
      rfl
    · cases same
  | ok a =>
    refine ⟨fun h => .inr ⟨a, rfl, h⟩, fun h => ?_⟩
    obtain same | ⟨_, same, h⟩ := h
    · cases same
    · cases same
      exact h

@[simp] theorem ok_bind (a : α) (f : α → Except ε β) : Except.ok a >>= f = f a := rfl

theorem map_eq_ok {x : Except ε α} {f : α → β} {b : β} :
    x.map f = .ok b ↔ ∃ a, x = .ok a ∧ f a = b := by
  cases x with
  | error e => exact iff_of_false nofun nofun
  | ok a => simp [Except.map]

theorem Binary.ratio_pos (b : Binary) : 0 < b.ratio.2 := Nat.two_pow_pos _

namespace Value

theorem orElse_of_truthy {v : Value} (h : v.truthy = true) (d : Value) : v.orElse d = v :=
  if_pos h

@[simp] theorem orElse_int (n : Int) : (Value.int n).orElse 0 = .int n := by
  by_cases h : n = 0
  · subst h
    rfl
  · exact orElse_of_truthy (by simp [truthy, h]) _

@[simp] theorem toInt_int (n : Int) : (Value.int n).toInt = .ok n := rfl

theorem same_int_iff {m n : Int} : (int m).same (.int n) = true ↔ m = n := by
  simp [same, isNumber, compareNumbers?, wholeOf?]

theorem order_int (i j : Int) : order (.int i) (.int j) = .ok (some (compare i j)) := by
  simp [order, isNumber, compareNumbers?, wholeOf?]

theorem holds_le (i j : Int) : Comparison.le.holds (some (compare i j)) = decide (i ≤ j) := by
  rcases Int.lt_trichotomy i j with h | h | h
  · rw [Int.compare_eq_lt.mpr h]
    simp [Comparison.holds, Int.le_of_lt h]
  · rw [Int.compare_eq_eq.mpr h]
    simp [Comparison.holds, h]
  · rw [Int.compare_eq_gt.mpr h]
    simp [Comparison.holds, h]

theorem holds_lt (i j : Int) : Comparison.lt.holds (some (compare i j)) = decide (i < j) := by
  rcases Int.lt_trichotomy i j with h | h | h
  · rw [Int.compare_eq_lt.mpr h]
    simp [Comparison.holds, h]
  · rw [Int.compare_eq_eq.mpr h]
    simp [Comparison.holds, h]
  · rw [Int.compare_eq_gt.mpr h]
    simp [Comparison.holds, Int.le_of_lt h]

theorem ordered_le_int (i j : Int) : ordered .le (.int i) (.int j) = .ok (decide (i ≤ j)) := by
  simp only [ordered, compareBy, order_int, Except.map, holds_le]

theorem ordered_lt_int (i j : Int) : ordered .lt (.int i) (.int j) = .ok (decide (i < j)) := by
  simp only [ordered, compareBy, order_int, Except.map, holds_lt]

theorem compareBy_gt_int (i j : Int) :
    compareBy .gt (.int i) (.int j) = .ok (decide (j < i)) := by
  have turned :
      Comparison.gt.holds (some (compare i j)) = Comparison.lt.holds (some (compare j i)) := by
    rw [← Int.compare_swap]
    cases compare j i <;> rfl
  simp only [compareBy, order_int, Except.map, turned, holds_lt]

theorem ordered_gt_int (i j : Int) : ordered .gt (.int i) (.int j) = .ok (decide (j < i)) := by
  rw [ordered, compareBy_gt_int]

theorem ordered_inside {i n : Int} (low : 0 ≤ i) (high : i < n) :
    ordered .le 0 (.int i) = .ok true ∧ ordered .lt (.int i) (.int n) = .ok true :=
  ⟨(ordered_le_int 0 i).trans (by simp [low]), (ordered_lt_int i n).trans (by simp [high])⟩

/-- The number that a value is, as a quotient; a float that is not finite is none. -/
def ratio? : Value → Option (Int × Nat)
  | float x => (Binary.ofFloat? x).map Binary.ratio
  | v => v.wholeOf?.map fun n => (n, 1)

/-- The value is a number `p / d` with `0 ≤ p / d < n`. -/
def Inside (v : Value) (n : Int) : Prop :=
  ∃ p d, v.ratio? = some (p, d) ∧ 0 < d ∧ 0 ≤ p ∧ p < n * d

/-- What passes for a coordinate is a number inside the size. An infinite float passes at most one
of the two comparisons. -/
theorem inside_of_ordered {v : Value} {n : Int} (low : ordered .le 0 v = .ok true)
    (high : ordered .lt v (.int n) = .ok true) : v.Inside n := by
  cases v with
  | int i =>
    have above : ordered .le 0 (.int i) = .ok (decide (0 ≤ i)) := ordered_le_int 0 i
    rw [above] at low
    rw [ordered_lt_int] at high
    exact ⟨i, 1, rfl, Nat.one_pos, by simpa using low, by simpa using high⟩
  | bool b =>
    have below : ordered .lt (.bool b) (.int n) = .ok (decide ((if b then 1 else 0) < n)) := by
      rw [← ordered_lt_int]
      simp [ordered, compareBy, order, isNumber, compareNumbers?, wholeOf?]
    rw [below] at high
    refine ⟨if b then 1 else 0, 1, rfl, Nat.one_pos, ?_, by simpa using high⟩
    cases b <;> decide
  | float x =>
    have above : ordered .le 0 (.float x) = .ok (Comparison.le.holds (compareIntFloat? 0 x)) := by
      simp [ordered, compareBy, order, isNumber, compareNumbers?, wholeOf?, Except.map]
    have below : ordered .lt (.float x) (.int n) =
        .ok (Comparison.lt.holds ((compareIntFloat? n x).map Ordering.swap)) := by
      simp [ordered, compareBy, order, isNumber, compareNumbers?, wholeOf?, Except.map]
    replace low := Except.ok.inj (above.symm.trans low)
    replace high := Except.ok.inj (below.symm.trans high)
    unfold compareIntFloat? at low high
    cases exact : Binary.ofFloat? x with
    | none =>
      rw [exact] at low high
      dsimp only at low high
      split at low
      next => cases low
      next =>
        split at low
        next positive => simp [*, Comparison.holds] at high
        next => cases low
    | some b =>
      rw [exact] at low high
      dsimp only [Option.map_some] at low high
      rw [holds_le, decide_eq_true_eq, Int.zero_mul] at low
      rw [← Std.OrientedCmp.eq_swap, holds_lt, decide_eq_true_eq] at high
      exact ⟨b.ratio.1, b.ratio.2, by rw [ratio?, exact]; rfl, b.ratio_pos, low, high⟩
  | null | text s | list l | tuple l | dict l | record l => cases low

end Value

theorem waitAction_eq_ok {v : Value} {a : Action} : waitAction v = .ok a ↔
    ∃ seconds, asNumber "seconds" v = .ok seconds ∧ seconds.isNegative = false ∧
      a = .wait seconds := by
  unfold waitAction
  rw [bind_eq_ok]
  refine exists_congr fun seconds => and_congr_right fun _ => ?_
  cases negative : seconds.isNegative with
  | true => exact iff_of_false nofun (by simp)
  | false => exact ⟨fun h => ⟨rfl, (Except.ok.inj h).symm⟩, fun h => congrArg Except.ok h.2.symm⟩

end PuzzleWorlds
