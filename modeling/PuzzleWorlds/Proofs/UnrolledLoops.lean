import PuzzleWorlds.Proofs.EnoughSteps

/-! Loops that are unrolled. A counting loop over whole numbers visits the multiples of its step
from the start up to the end, or down to it, whatever its body does to the loop's variable; and a
repetition is its body, as often as it says. So a loop comes to the effect that the statements come
to which are executed one after another. -/

namespace PuzzleWorlds

variable {d : Domain}

theorem Value.ordered_ge_int (i j : Int) :
    ordered .ge (.int i) (.int j) = .ok (decide (j ≤ i)) := by
  have turned :
      Comparison.ge.holds (some (compare i j)) = Comparison.le.holds (some (compare j i)) := by
    rw [← Int.compare_swap]
    cases compare j i <;> rfl
  simp only [ordered, compareBy, order_int, Except.map, turned, holds_le]

/-- Whether a loop that counts in this direction has not passed its end. -/
def inside (up : Bool) (stop value : Int) : Bool :=
  if up then decide (value ≤ stop) else decide (stop ≤ value)

theorem inside_iff {start stop : Int} {size : Nat} (moves : 0 < size) (k : Nat) :
    let step : Int := if stop < start then -size else size
    inside (decide (0 < step)) stop (start + k * step) = true ↔
      k < (stop - start).natAbs / size + 1 := by
  rw [Nat.lt_succ_iff, Nat.le_div_iff_mul_le moves]
  by_cases down : stop < start
  · have back : ¬(0 : Int) < -size := by omega
    simp only [down, if_true, back, inside, decide_false, Bool.false_eq_true, if_false,
      decide_eq_true_eq, mul_neg]
    omega
  · have forth : (0 : Int) < size := by omega
    simp only [down, if_false, forth, inside, decide_true, if_true, decide_eq_true_eq]
    omega

/-- A body, once for each of the values that are assigned to the variable. -/
def counted (var : Value) (values : List Int) (body : List Stmt) : List Stmt :=
  values.flatMap fun v => .assign var (.literal (.int v)) .null :: body

/-- From the start towards the end by the size of the step, as long as the end is not passed. -/
def countedValues (start stop step : Int) : List Int :=
  (List.range ((stop - start).natAbs / step.natAbs + 1)).map fun k : Nat =>
    if stop < start then start - k * step.natAbs else start + k * step.natAbs

/-- The expression counts as this whole number. -/
def Expr.Whole (e : Expr) (m : Machine d) (k : Int) : Prop :=
  ∃ v, e.evaluate m.registry m.vars = .ok v ∧ v.asNumber? = some (.int k)

namespace Exec

theorem run_goesOn_int (stop step value : Int) (m : Machine d) :
    (goesOn (.int stop) (.int step) (.int value)).run m =
      (.ok (inside (decide (0 < step)) stop value), m) := by
  have up : Value.ordered .gt (.int step) 0 = .ok (decide (0 < step)) :=
    Value.ordered_gt_int step 0
  unfold goesOn ordered
  rw [up]
  cases decide (0 < step) with
  | true =>
    have low := Value.ordered_le_int value stop
    simp only [pure_bind, if_true, low]
    rfl
  | false =>
    have high := Value.ordered_ge_int value stop
    simp only [pure_bind, Bool.false_eq_true, if_false, high]
    rfl

theorem run_whole {e : Expr} {k : Int} {m : Machine d} (whole : e.Whole m k) (what : String)
    (f : Value → Exec d α) :
    (evaluate e >>= fun v => lift (asNumber what v) >>= f).run m = (f (.int k)).run m := by
  obtain ⟨v, evaluated, number⟩ := whole
  have first : (evaluate e).run m = (.ok v, m) := congrArg (·, m) evaluated
  have second : (lift (asNumber what v)).run m = (.ok (.int k), m) := by
    rw [asNumber, number]
    rfl
  rw [run_bind_ok first, run_bind_ok second]

theorem run_countRange_int {start stop : Expr} {step : Option Expr} {a b c : Int} {m : Machine d}
    (starts : start.Whole m a) (stops : stop.Whole m b)
    (steps : step.elim (c = 1) fun e => e.Whole m c) (moves : c ≠ 0) :
    (countRange start stop step).run m =
      (.ok (.int a, .int b, .int (if b < a then -c.natAbs else c.natAbs)), m) := by
  have size : (stepOf step).run m = (.ok (.int c.natAbs), m) := by
    cases step with
    | none =>
      obtain rfl : c = 1 := steps
      rfl
    | some e => exact run_whole steps _ _
  have moves' : Value.same (.int c.natAbs) 0 = false := by
    rw [← Bool.not_eq_true]
    exact fun same => moves (by simpa using Value.same_int_iff.mp same)
  have down : (ordered .gt (.int a) (.int b) : Exec d Bool).run m =
      (.ok (decide (b < a)), m) := by
    unfold ordered
    rw [Value.ordered_gt_int]
    rfl
  unfold countRange
  rw [run_whole starts, run_whole stops, run_bind_ok size]
  simp only [moves', Bool.false_eq_true, if_false]
  rw [run_bind_ok down]
  by_cases below : b < a
  · simp only [below, decide_true, if_true]
    rfl
  · simp only [below, decide_false, if_false]
    rfl

end Exec

section

variable {m n : Machine d} {x : Except Fault Unit} {body : List Stmt} {ts : List Task}

/-- The turns of a repetition are its body, and then the turns that are left. -/
theorem does_turns (k : Nat) (body : List Stmt) : Does (.turns k body :: ts) m x n ↔
    Does ((List.replicate k body).flatten.map .stmt ++ ts) m x n := by
  induction k generalizing m with
  | zero => exact does_takeApart fun _ _ _ => rfl
  | succ k ih =>
    have charged : Does (.turns (k + 1) body :: ts) m x n ↔
        Does (body.map .stmt ++ [.turns k body] ++ ts) { m with steps := m.steps + 1 } x n :=
      does_takeApart fun l timely room => Exec.run_bind_ok (Exec.run_tick_granted timely room) _
    rw [charged, List.append_assoc, List.replicate_succ, List.flatten_cons, List.map_append,
      List.append_assoc]
    exact (does_append_congr fun m' => ih).trans (does_congr ⟨rfl, rfl⟩)

/-- Tasks that do the same by themselves, and leave the same to do. -/
theorem Runs.of_same_step {l : Limits} {t t' : Task} {parts parts' ts' : List Task}
    {p : Exec d Unit} (own : (t.takeApart l).run m = (p >>= fun _ => pure parts).run m)
    (other : (t'.takeApart l).run m = (p >>= fun _ => pure parts').run m)
    (left : parts ++ ts = parts' ++ ts') (ran : Runs l (t :: ts) m x n) :
    Runs l (t' :: ts') m x n := by
  rw [Exec.run_bind] at own other
  generalize p.run m = done at own other
  match done with
  | (.error f, m') =>
    replace own : (t.takeApart l).run m = (.error f, m') := own
    cases ran with
    | fails failed =>
      cases own.symm.trans failed
      exact .fails other
    | goesOn taken => cases own.symm.trans taken
  | (.ok u, m') =>
    replace own : (t.takeApart l).run m = (.ok parts, m') := own
    cases ran with
    | fails failed => cases own.symm.trans failed
    | goesOn taken rest =>
      cases own.symm.trans taken
      exact .goesOn other (left ▸ rest)

section

variable {var : Value} {stop step value : Int}

/-- A turn of a counting loop assigns the counter as a statement would. -/
theorem does_turn (within : inside (decide (0 < step)) stop value = true) :
    Does (.count var (.int stop) (.int step) (.int value) body :: ts) m x n ↔
      Does (.stmt (.assign var (.literal (.int value)) .null) :: (body.map .stmt ++
        .moveOn var (.int stop) (.int step) (.int value) body :: ts)) m x n := by
  have turn (l : Limits) :
      ((Task.count var (.int stop) (.int step) (.int value) body).takeApart l).run m =
        ((Exec.tick l >>= fun _ => Exec.assign var (.int value)) >>= fun _ =>
          pure (body.map .stmt ++ [.moveOn var (.int stop) (.int step) (.int value) body])).run
            m := by
    simp only [Task.takeApart, Task.enterTurn, bind_assoc]
    rw [Exec.run_bind_ok (Exec.run_goesOn_int stop step value m), within]
    simp only [if_true, bind_assoc, pure_bind]
  have assigns (l : Limits) :
      ((Task.stmt (.assign var (.literal (.int value)) .null)).takeApart l).run m =
        ((Exec.tick l >>= fun _ => Exec.assign var (.int value)) >>= fun _ => pure []).run m := by
    have evaluated : (Exec.evaluate (.literal (.int value)) : Exec d Value) =
        pure (.int value) := rfl
    have here : (Exec.atBlock .null : Exec d Unit) = pure () := rfl
    simp only [Task.takeApart, Task.enter, here, evaluated, bind_assoc, pure_bind]
  have left : body.map Task.stmt ++ [.moveOn var (.int stop) (.int step) (.int value) body] ++ ts =
      [] ++ (body.map .stmt ++ .moveOn var (.int stop) (.int step) (.int value) body :: ts) := by
    simp
  constructor
  · rintro ⟨l, n', timely, ran, granted, same⟩
    exact ⟨l, n', timely, ran.of_same_step (turn l) (assigns l) left, granted, same⟩
  · rintro ⟨l, n', timely, ran, granted, same⟩
    exact ⟨l, n', timely, ran.of_same_step (assigns l) (turn l) left.symm, granted, same⟩

/-- A counting loop of which so many turns are left. -/
theorem does_counting {turns : Nat}
    (within : ∀ k < turns, inside (decide (0 < step)) stop (value + k * step) = true)
    (past : inside (decide (0 < step)) stop (value + turns * step) = false) :
    Does (.count var (.int stop) (.int step) (.int value) body :: ts) m x n ↔
      Does ((counted var ((List.range turns).map fun k : Nat => value + k * step) body).map .stmt ++
        ts) m x n := by
  -- The counter moves on with each turn, whatever the body makes of the variable.
  induction turns generalizing m value with
  | zero =>
    refine does_takeApart fun l _ _ => ?_
    have passed : (Task.enterTurn l var (.int stop) (.int step) (.int value)).run m =
        (.ok false, m) := by
      unfold Task.enterTurn
      have stopped : inside (decide (0 < step)) stop value = false := by simpa using past
      rw [Exec.run_bind_ok (Exec.run_goesOn_int stop step value m), stopped]
      rfl
    exact Exec.run_bind_ok passed _
  | succ turns ih =>
    have first : inside (decide (0 < step)) stop value = true := by
      simpa using within 0 (Nat.succ_pos turns)
    have shift (k : Nat) : value + step + k * step = value + (k + 1 : Nat) * step := by
      push_cast
      ring
    have onward (m' : Machine d) :
        Does (.moveOn var (.int stop) (.int step) (.int value) body :: ts) m' x n ↔
          Does ([.count var (.int stop) (.int step) (.int (value + step)) body] ++ ts) m' x n :=
      does_takeApart fun _ _ _ => rfl
    have values : (List.range (turns + 1)).map (fun k : Nat => value + k * step) =
        value :: (List.range turns).map fun k : Nat => value + step + k * step := by
      simp [List.range_succ_eq_map, Function.comp_def, shift]
    rw [does_turn first, values, counted, List.flatMap_cons, List.map_append, List.map_cons,
      List.append_assoc, List.cons_append]
    change Does ((_ :: body.map .stmt) ++ _) m x n ↔ Does ((_ :: body.map .stmt) ++ _) m x n
    refine does_append_congr fun m' => (onward m').trans ?_
    exact ih (fun k low => shift k ▸ within (k + 1) (Nat.succ_lt_succ low)) (shift turns ▸ past)

end

/-- A counting loop visits no other values than these. -/
theorem does_count {var : Value} {start stop : Expr} {step : Option Expr} {id : Value} {a b c : Int}
    (starts : start.Whole m a) (stops : stop.Whole m b)
    (steps : step.elim (c = 1) fun e => e.Whole m c) (moves : c ≠ 0) :
    Does (.stmt (.count var start stop step body id) :: ts) m x n ↔
      Does ((counted var (countedValues a b c) body).map .stmt ++ ts) m x n := by
  have size : 0 < c.natAbs := Int.natAbs_pos.mpr moves
  let s : Int := if b < a then -c.natAbs else c.natAbs
  have entered : Does (.stmt (.count var start stop step body id) :: ts) m x n ↔
      Does ([.count var (.int b) (.int s) (.int a) body] ++ ts) (m.entered id) x n := by
    refine does_takeApart fun l timely room => ?_
    rw [Task.takeApart, Exec.run_bind_ok (Exec.run_enter_granted timely room id)]
    have ranges := Exec.run_countRange_int (m := m.entered id) starts stops steps moves
    exact Exec.run_bind_ok ranges _
  have values : countedValues a b c =
      (List.range ((b - a).natAbs / c.natAbs + 1)).map fun k : Nat => a + k * s := by
    refine List.map_congr_left fun k _ => ?_
    simp only [s]
    split
    next => ring
    next => rfl
  have turned (k : Nat) : inside (decide (0 < s)) b (a + k * s) = true ↔
      k < (b - a).natAbs / c.natAbs + 1 := inside_iff size k
  refine entered.trans ((does_counting (fun k low => (turned k).mpr low) ?_).trans ?_)
  · exact Bool.eq_false_iff.mpr fun more => lt_irrefl _ ((turned _).mp more)
  · rw [values]
    exact does_congr ⟨rfl, rfl⟩

/-- A repetition does what its body does as often. -/
theorem does_loop {times : Expr} {id v : Value} {k : Int}
    (evaluated : times.evaluate m.registry m.vars = .ok v) (whole : v.asInt? = some k) :
    Does (.stmt (.loop times body id) :: ts) m x n ↔
      Does ((List.replicate k.toNat body).flatten.map .stmt ++ ts) m x n := by
  have entered : Does (.stmt (.loop times body id) :: ts) m x n ↔
      Does ([.turns k.toNat body] ++ ts) (m.entered id) x n := by
    refine does_takeApart fun l timely room => ?_
    have value : (Exec.evaluate times : Exec d Value).run (m.entered id) =
        (.ok v, m.entered id) := congrArg (·, m.entered id) evaluated
    have number : (Exec.lift (asInt "repeat count" v) : Exec d Int).run (m.entered id) =
        (.ok k, m.entered id) := by
      rw [asInt, whole]
      rfl
    rw [Task.takeApart, Exec.run_bind_ok (Exec.run_enter_granted timely room id),
      Exec.run_bind_ok value]
    exact Exec.run_bind_ok number _
  exact entered.trans ((does_turns _ _).trans (does_congr ⟨rfl, rfl⟩))

end

/-- Loops come to what they come to when they are unrolled. A counting loop over whole numbers,
whose step is not zero, assigns to its variable each value from the start to the end, and runs its
body after each; a repetition runs its body as often as it says. -/
theorem comes_unrolled {m : Machine d} {body : List Stmt} {id : Value} {e : Effect d} :
    (∀ {var start stop step} {a b c : Int}, start.Whole m a → stop.Whole m b →
      step.elim (c = 1) (fun s => s.Whole m c) → c ≠ 0 →
        (Comes [.count var start stop step body id] m e ↔
          Comes (counted var (countedValues a b c) body) m e)) ∧
      ∀ {times : Expr} {v : Value} {k : Int}, times.evaluate m.registry m.vars = .ok v →
        v.asInt? = some k →
        (Comes [.loop times body id] m e ↔ Comes (List.replicate k.toNat body).flatten m e) := by
  exact ⟨fun starts stops steps moves => comes_congr (does_count starts stops steps moves),
    fun evaluated whole => comes_congr (does_loop evaluated whole)⟩

/-- Down from three by twos, with a body that moves the variable away; and two steps. -/
theorem comes_unrolled_down :
    countedValues 3 0 (-2) = [3, 1] ∧
      Comes [.count "i" (.literal 3) (.literal 0) (some (.literal (.int (-2))))
          [.call "wait" [.var "i"] .null, .assign "i" (.literal 100) .null] .null]
        { registry := (⟨⟨.east⟩, 10, []⟩ : Registry .robot) }
        ⟨.ok (), [("i", 100)], ⟨⟨.east⟩, 10, [.wait 3, .wait 1]⟩⟩ ∧
      Comes [.loop (.literal 2) [.call "maju" [] .null] .null]
        { registry := (⟨⟨.east⟩, 10, []⟩ : Registry .robot) }
        ⟨.ok (), [], ⟨⟨.east⟩, 10, [.move 1 0 0, .move 1 0 0]⟩⟩ := by
  have early : ¬(0 : Float) > Limits.deadline {} := by decide +kernel
  have counts (k : Int) : Expr.Whole (.literal (.int k))
      ({ registry := ⟨⟨.east⟩, 10, []⟩ } : Machine .robot) k := ⟨_, rfl, rfl⟩
  have steps : (some (Expr.literal (.int (-2)))).elim ((-2 : Int) = 1) fun e =>
      e.Whole ({ registry := ⟨⟨.east⟩, 10, []⟩ } : Machine .robot) (-2) := counts (-2)
  refine ⟨rfl, (comes_unrolled.1 (counts 3) (counts 0) steps (by decide)).mpr ?_,
    (comes_unrolled.2 (k := 2) rfl rfl).mpr ?_⟩
  · exact comes_of_run (l := {}) (fun _ => early) (by decide +kernel)
  · exact comes_of_run (l := {}) (fun _ => early) (by decide +kernel)

end PuzzleWorlds
