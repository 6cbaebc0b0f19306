import PuzzleWorlds.Proofs.ExactBudgets

/-! Counting loops that run to their end. What holds before the first turn, and is kept from each
turn to the next, holds after the last one, as long as each turn can be charged. -/

namespace PuzzleWorlds

variable {d : Domain} {l : Limits}

/-- From one machine the tasks lead to the other, where nothing of them is left to do. -/
def Leads (l : Limits) (ts : List Task) (m m' : Machine d) : Prop :=
  ∀ rest x n, Runs l rest m' x n → Runs l (ts ++ rest) m x n

namespace Leads

theorem nil (m : Machine d) : Leads l [] m m := fun _ _ _ after => after

theorem append {ts us : List Task} {m m₁ m₂ : Machine d} (first : Leads l ts m m₁)
    (second : Leads l us m₁ m₂) : Leads l (ts ++ us) m m₂ := by
  intro rest x n after
  rw [List.append_assoc]
  exact first _ x n (second rest x n after)

/-- A task leads to where its parts lead. -/
theorem takeApart {t : Task} {parts : List Task} {m m₁ m₂ : Machine d}
    (taken : (t.takeApart l).run m = (.ok parts, m₁)) (rest : Leads l parts m₁ m₂) :
    Leads l [t] m m₂ :=
  fun us x n after => .goesOn taken (rest us x n after)

theorem runs {ts : List Task} {m m' : Machine d} (h : Leads l ts m m') :
    Runs l ts m (.ok ()) m' := by
  have ended := h [] _ _ (.done m')
  rwa [List.append_nil] at ended

end Leads

namespace Variables

end Variables

namespace Machine

/-- The machine when a statement was charged. -/
def entered (m : Machine d) (id : Value) : Machine d :=
  { m with steps := m.steps + 1, blockId := if id.isNull then m.blockId else id }

/-- The machine in a turn of a counting loop. -/
def turn (m : Machine d) (var : Value) (k : Nat) : Machine d :=
  { m with steps := m.steps + 1, vars := Variables.set m.vars var (.int k) }

end Machine

namespace Exec

theorem run_bind_ok {x : Exec d α} {m m' : Machine d} {a : α} (h : x.run m = (.ok a, m'))
    (f : α → Exec d β) : (x >>= f).run m = (f a).run m' := by
  rw [run_bind, h]

theorem run_atBlock (id : Value) (m : Machine d) : (atBlock id).run m =
    (.ok (), { m with blockId := if id.isNull then m.blockId else id }) := by
  unfold atBlock
  split <;> rfl

theorem run_goesOn (last k : Nat) (m : Machine d) :
    (goesOn (.int last) 1 (.int k)).run m = (.ok (decide (k ≤ last)), m) := by
  have up : Value.ordered .gt 1 0 = .ok true := rfl
  have low : Value.ordered .le (.int k) (.int last) = .ok (decide (k ≤ last)) := by
    rw [Value.ordered_le_int]
    simp only [Int.ofNat_le]
  unfold goesOn ordered
  rw [up]
  simp only [pure_bind, if_true, low]
  rfl

/-- A loop that counts up by one from zero. -/
theorem run_countRange {stop : Expr} {last : Nat} {m : Machine d}
    (ends : stop.evaluate m.registry m.vars = .ok (.int last)) :
    (countRange (.literal 0) stop none).run m = (.ok (0, .int last, 1), m) := by
  have up : Value.ordered .gt (.int 0) (.int last) = .ok false := by
    rw [Value.ordered_gt_int]
    simp
  have evaluated : (evaluate stop : Exec d Value).run m = (.ok (.int last), m) :=
    congrArg (·, m) ends
  have first : (evaluate (.literal 0) : Exec d Value).run m = (.ok (.int 0), m) := rfl
  have sized : (stepOf none : Exec d Value).run m = (.ok 1, m) := rfl
  have number (what : String) (n : Int) :
      (lift (asNumber what (.int n)) : Exec d Value).run m = (.ok (.int n), m) := rfl
  have upward : (ordered .gt (.int 0) (.int last) : Exec d Bool).run m = (.ok false, m) := by
    unfold ordered
    rw [up]
    rfl
  unfold countRange
  rw [run_bind_ok first, run_bind_ok (number _ 0), run_bind_ok evaluated, run_bind_ok (number _ _),
    run_bind_ok sized]
  exact run_bind_ok upward _

variable (timely : ∀ n, ¬l.clock n > l.deadline)

include timely

theorem run_tick_granted {m : Machine d} (room : m.steps + 1 ≤ l.stepBudget.toNat) :
    (tick l).run m = (.ok (), { m with steps := m.steps + 1 }) := by
  have granted : ¬((m.steps + 1 : Nat) : Int) > l.stepBudget := by omega
  rw [run_tick]
  simp only [granted, timely, if_false]

theorem run_enter_granted {m : Machine d} (room : m.steps + 1 ≤ l.stepBudget.toNat) (id : Value) :
    (Task.enter l id).run m = (.ok (), m.entered id) := by
  unfold Task.enter
  rw [run_bind_ok (run_tick_granted timely room)]
  exact run_atBlock id _

end Exec

namespace Leads

variable (timely : ∀ n, ¬l.clock n > l.deadline) {m m' : Machine d} {body : List Stmt}

include timely

section

variable (room : m.steps + 1 ≤ l.stepBudget.toNat) {id : Value}

include room

/-- A statement leads to where the rest of its work leads once it is charged. -/
theorem entered {t : Task} {x : Exec d (List Task)} {parts : List Task} {m₁ : Machine d}
    (shape : t.takeApart l = Task.enter l id >>= fun _ => x)
    (taken : x.run (m.entered id) = (.ok parts, m₁)) (rest : Leads l parts m₁ m') :
    Leads l [t] m m' := by
  refine takeApart ?_ rest
  rw [shape, Exec.run_bind_ok (Exec.run_enter_granted timely room id)]
  exact taken

theorem branch {condition : Expr} {otherwise : List Stmt} {v : Value}
    (holds : condition.evaluate m.registry m.vars = .ok v)
    (chosen : Leads l ((if v.truthy then body else otherwise).map .stmt) (m.entered id) m') :
    Leads l [.stmt (.branch condition body otherwise id)] m m' := by
  refine entered timely room rfl ?_ chosen
  have evaluated : (Exec.evaluate condition : Exec d Value).run (m.entered id) =
      (.ok v, m.entered id) := congrArg (·, m.entered id) holds
  exact Exec.run_bind_ok evaluated _

theorem call {name : String} {args : List Expr} {vs : List Value} {v : Value} {r : Registry d}
    (given : Expr.evaluateAll m.registry m.vars args = .ok vs)
    (done : m.registry.invoke name vs = (.ok v, r)) :
    Leads l [.stmt (.call name args id)] m { m.entered id with registry := r } := by
  refine entered timely room rfl ?_ (nil _)
  have evaluated : (Exec.evaluateAll args : Exec d (List Value)).run (m.entered id) =
      (.ok vs, m.entered id) := congrArg (·, m.entered id) given
  have invoked : (Exec.invoke name vs : Exec d Unit).run (m.entered id) =
      (.ok (), { m.entered id with registry := r }) := by
    rw [Exec.run_invoke, show (m.entered id).registry = m.registry from rfl, done]
    rfl
  rw [Exec.run_bind_ok evaluated]
  exact Exec.run_bind_ok invoked _

/-- A loop that counts up by one from zero leads to where its turns lead. -/
theorem count {var : Value} {stop : Expr} {last : Nat}
    (ends : stop.evaluate m.registry m.vars = .ok (.int last))
    (turns : Leads l [.count var (.int last) 1 0 body] (m.entered id) m') :
    Leads l [.stmt (.count var (.literal 0) stop none body id)] m m' := by
  refine entered timely room rfl ?_ turns
  exact Exec.run_bind_ok (Exec.run_countRange (m := m.entered id) ends) _

end

section

variable {var : Value} {last : Nat}

theorem takeApart_turn (keyed : var.keyed = .ok ()) {k : Nat} (low : k ≤ last)
    (room : m.steps + 1 ≤ l.stepBudget.toNat) :
    ((Task.count var (.int last) 1 (.int k) body).takeApart l).run m =
      (.ok (body.map .stmt ++ [.moveOn var (.int last) 1 (.int k) body]), m.turn var k) := by
  have entered : (Task.enterTurn l var (.int last) 1 (.int k)).run m =
      (.ok true, m.turn var k) := by
    unfold Task.enterTurn
    rw [Exec.run_bind_ok (Exec.run_goesOn last k m), decide_eq_true low]
    simp only [if_true]
    rw [Exec.run_bind_ok (Exec.run_tick_granted timely room)]
    simp only [Exec.assign, keyed]
    rfl
  exact Exec.run_bind_ok entered _

omit timely in
theorem takeApart_past {k : Nat} (past : last < k) :
    ((Task.count var (.int last) 1 (.int k) body).takeApart l).run m = (.ok [], m) := by
  have passed : (Task.enterTurn l var (.int last) 1 (.int k)).run m = (.ok false, m) := by
    unfold Task.enterTurn
    rw [Exec.run_bind_ok (Exec.run_goesOn last k m), decide_eq_false (Nat.not_le.mpr past)]
    rfl
  exact Exec.run_bind_ok passed _

/-- What each turn of a loop keeps holds when the loop is over. -/
theorem turns (keyed : var.keyed = .ok ()) {inv : Nat → Machine d → Prop}
    (turn : ∀ k m, k ≤ last → inv k m → m.steps + 1 ≤ l.stepBudget.toNat ∧
      ∃ m', Leads l (body.map .stmt) (m.turn var k) m' ∧ inv (k + 1) m')
    {k : Nat} (low : k ≤ last + 1) (start : inv k m) :
    ∃ m', Leads l [.count var (.int last) 1 (.int k) body] m m' ∧ inv (last + 1) m' := by
  induction left : last + 1 - k generalizing k m with
  | zero =>
    obtain rfl : k = last + 1 := by omega
    exact ⟨m, takeApart (takeApart_past (Nat.lt_succ_self last)) (nil m), start⟩
  | succ n ih =>
    have within : k ≤ last := by omega
    obtain ⟨room, m₁, done, kept⟩ := turn k m within start
    obtain ⟨m₂, others, final⟩ := ih (k := k + 1) (by omega) kept (by omega)
    have onward : Leads l [.moveOn var (.int last) 1 (.int k) body] m₁ m₂ := takeApart rfl others
    exact ⟨m₂, takeApart (takeApart_turn timely keyed within room) (done.append onward), final⟩

end

end Leads

end PuzzleWorlds
