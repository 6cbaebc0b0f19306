import Mathlib
import PuzzleWorlds.Proofs.Payload
import PuzzleWorlds.Proofs.Termination

/-! Exact budgets. A run that no budget ends is the same run under all other budgets that it fits
into, and is cut short by all that it does not: whatever a program does between two charges is blind
to the budgets, and what it spends is counted in the same way under each of them. -/

namespace PuzzleWorlds

variable {d : Domain}

/-- A query gives a value back. -/
theorem Domain.call_query {s : d.Shadow} {c : d.Command} {a : Arguments} {x : Response d.Shadow}
    (query : (Domain.commandSpec c).query = true) (h : Domain.call s c a = .ok x) :
    ∃ v, x = .answers v := by
  cases d with
  | sorting =>
    cases c with
    | get =>
      obtain ⟨i, _, h⟩ := bind_eq_ok.mp h
      exact ⟨_, (Except.ok.inj h).symm⟩
    | length | view => exact ⟨_, (Except.ok.inj h).symm⟩
    | swap => cases query
  | combat =>
    cases c with
    | attack | selectTarget => cases query
    | getHp =>
      obtain ⟨e, _, h⟩ := bind_eq_ok.mp h
      exact ⟨_, (Except.ok.inj h).symm⟩
    | getPosition =>
      obtain ⟨e, _, h⟩ := bind_eq_ok.mp h
      obtain ⟨v, _, h⟩ := bind_eq_ok.mp h
      exact ⟨_, (Except.ok.inj h).symm⟩
    | distanceTo | inRange =>
      obtain ⟨e, _, h⟩ := bind_eq_ok.mp h
      obtain ⟨far, _, h⟩ := bind_eq_ok.mp h
      exact ⟨_, (Except.ok.inj h).symm⟩
  | robot | building | music | sprite | pixel | math => cases c <;> cases query

namespace Registry

/-- The registry with another budget of actions. -/
def allowing (r : Registry d) (actions : Int) : Registry d := { r with maxActions := actions }

/-- What a query gives back. -/
theorem invoke_query {name : String} (query : d.isQuery name = true) (r : Registry d)
    (args : List Value) : (r.invoke name args).1 = (r.respond name args).bind fun
      | .answers v => .ok v
      | .acts .. => .ok .null := by
  unfold invoke
  cases response : r.respond name args with
  | error f => rfl
  | ok x =>
    obtain ⟨c, a, known, _, called⟩ := respond_ok_iff.mp response
    have asks : (Domain.commandSpec c).query = true := by
      rw [Domain.isQuery, known] at query
      exact query
    obtain ⟨v, rfl⟩ := Domain.call_query asks called
    rfl

theorem invoke_query_allowing {name : String} (query : d.isQuery name = true) (r : Registry d)
    (actions : Int) (args : List Value) :
    ((r.allowing actions).invoke name args).1 = (r.invoke name args).1 := by
  rw [invoke_query query, invoke_query query]
  rfl

end Registry

namespace Expr

mutual

/-- The value of an expression does not hang on the budget of actions. -/
theorem evaluate_allowing (r : Registry d) (actions : Int) (vs : Variables) :
    (e : Expr) → e.evaluate (r.allowing actions) vs = e.evaluate r vs
  | literal v => by simp only [evaluate]
  | var name => by simp only [evaluate]
  | binary op a b => by
    simp only [evaluate, evaluate_allowing r actions vs a, evaluate_allowing r actions vs b]
  | compare op a b => by
    simp only [evaluate, evaluate_allowing r actions vs a, evaluate_allowing r actions vs b]
  | logic op a b => by
    simp only [evaluate, evaluate_allowing r actions vs a, evaluate_allowing r actions vs b]
  | not a => by simp only [evaluate, evaluate_allowing r actions vs a]
  | query name args => by
    simp only [evaluate, evaluateAll_allowing r actions vs args]
    cases query : d.isQuery name with
    | false => rfl
    | true => simp only [Registry.invoke_query_allowing query]
  | field target name => by simp only [evaluate, evaluate_allowing r actions vs target]
  | unknown kind => by simp only [evaluate]

theorem evaluateAll_allowing (r : Registry d) (actions : Int) (vs : Variables) :
    (es : List Expr) → evaluateAll (r.allowing actions) vs es = evaluateAll r vs es
  | [] => by simp only [evaluateAll]
  | e :: rest => by
    simp only [evaluateAll, evaluate_allowing r actions vs e,
      evaluateAll_allowing r actions vs rest]

end

end Expr

namespace Machine

def allowing (m : Machine d) (actions : Int) : Machine d :=
  { m with registry := m.registry.allowing actions }

/-- What was spent is allowed. A budget below zero allows as much as none. -/
def Fits (m : Machine d) (steps actions : Int) : Prop :=
  m.steps ≤ steps.toNat ∧ m.recorded ≤ actions.toNat

end Machine

/-- An end that no budget brought about. -/
def Unhurried (x : Except Fault α) : Prop := ∀ f, x = .error f → f.kind ≠ .budgetExceeded

/-- What is reported of budgets that are used up. -/
def UsedUp (steps actions : Int) (f : Fault) : Prop :=
  f = .tooManySteps steps ∨ f = .tooManyActions actions

namespace Exec

/-- Code that does the same whatever the budget of actions is. -/
def Blind (x : Exec d α) : Prop :=
  ∀ m actions, x.run (m.allowing actions) = ((x.run m).1, (x.run m).2.allowing actions)

namespace Blind

theorem bind {x : Exec d α} {f : α → Exec d β} (first : Blind x) (second : ∀ a, Blind (f a)) :
    Blind (x >>= f) := by
  intro m actions
  rw [run_bind, run_bind, first m actions]
  rcases x.run m with ⟨e | a, m'⟩
  · rfl
  · exact second a m' actions

theorem pure (a : α) : Blind (Pure.pure a : Exec d α) := fun _ _ => rfl

theorem throw (f : Fault) : Blind (MonadExcept.throw f : Exec d α) := fun _ _ => rfl

theorem lift (x : Except Fault α) : Blind (lift x : Exec d α) := fun _ _ => rfl

theorem evaluate (e : Expr) : Blind (evaluate e : Exec d Value) := fun m actions =>
  congrArg (·, m.allowing actions) (e.evaluate_allowing m.registry actions m.vars)

theorem evaluateAll (es : List Expr) : Blind (evaluateAll es : Exec d (List Value)) :=
  fun m actions =>
    congrArg (·, m.allowing actions) (Expr.evaluateAll_allowing m.registry actions m.vars es)

theorem atBlock (id : Value) : Blind (atBlock id : Exec d Unit) := by
  intro m actions
  unfold Exec.atBlock
  split <;> rfl

theorem assign (name v : Value) : Blind (assign name v : Exec d Unit) := by
  intro m actions
  unfold Exec.assign
  split <;> rfl

theorem ordered (c : Value.Comparison) (a b : Value) : Blind (ordered c a b : Exec d Bool) := by
  intro m actions
  unfold Exec.ordered
  split <;> rfl

theorem sum (a b : Value) : Blind (sum a b : Exec d Value) := by
  intro m actions
  unfold Exec.sum
  split <;> rfl

theorem collection (name : String) :
    Blind (get >>= fun m => Exec.lift (m.registry.collection name) : Exec d (List Value)) :=
  fun _ _ => rfl

theorem goesOn (stop step value : Value) : Blind (goesOn stop step value : Exec d Bool) :=
  (ordered _ _ _).bind fun _ => ordered _ _ _

theorem stepOf (e : Option Expr) : Blind (stepOf e : Exec d Value) := by
  cases e with
  | none => exact pure 1
  | some e => exact (evaluate e).bind fun _ => (lift _).bind fun _ => pure _

theorem countRange (start stop : Expr) (step : Option Expr) :
    Blind (countRange start stop step : Exec d (Value × Value × Value)) := by
  refine (evaluate _).bind fun _ => (lift _).bind fun _ => (evaluate _).bind fun _ =>
    (lift _).bind fun _ => (stepOf _).bind fun size => ?_
  split
  next => exact (throw _).bind fun _ => (ordered _ _ _).bind fun _ => pure _
  next => exact (ordered _ _ _).bind fun _ => pure _

end Blind

/-- How what code does under its own budgets, and what its counterpart does from the same machine
under others, go together: if the counterpart's budgets are enough it does the same, and else they
stop it. -/
structure Match (steps actions : Int) (m : Machine d) (own other : Except Fault α × Machine d) :
    Prop where
  forward : m.steps ≤ own.2.steps ∧ m.recorded ≤ own.2.recorded
  same : Unhurried own.1 → own.2.Fits steps actions → other = (own.1, own.2.allowing actions)
  stopped : Unhurried own.1 → m.Fits steps actions → ¬own.2.Fits steps actions →
    ∃ f m', other = (.error f, m') ∧ UsedUp steps actions f

/-- Code and its counterpart under other budgets. -/
def Matches (steps actions : Int) (x y : Exec d α) : Prop :=
  ∀ m, Match steps actions m (x.run m) (y.run (m.allowing actions))

namespace Matches

variable {steps actions : Int}

theorem bind {x y : Exec d α} {f g : α → Exec d β} (first : Matches steps actions x y)
    (second : ∀ a, Matches steps actions (f a) (g a)) :
    Matches steps actions (x >>= f) (y >>= g) := by
  intro m
  have here := first m
  rw [run_bind, run_bind]
  generalize x.run m = own at here ⊢
  generalize y.run (m.allowing actions) = other at here ⊢
  obtain ⟨⟨forward, forward'⟩, same, stopped⟩ := here
  match own with
  | (.error e, m₁) =>
    have calm : ∀ {γ : Type}, Unhurried (.error e : Except Fault γ) →
        Unhurried (.error e : Except Fault α) := fun calm f same => calm f (by cases same; rfl)
    refine ⟨⟨forward, forward'⟩, fun own fits => ?_, fun own fits unfit => ?_⟩
    · rw [same (calm own) fits]
    · obtain ⟨f, m', rfl, why⟩ := stopped (calm own) fits unfit
      exact ⟨f, m', rfl, why⟩
  | (.ok a, m₁) =>
    have next := second a m₁
    have onward := next.forward
    have calm₁ : Unhurried (.ok a : Except Fault α) := nofun
    refine ⟨⟨Nat.le_trans forward onward.1, Nat.le_trans forward' onward.2⟩,
      fun calm fits => ?_, fun calm fits unfit => ?_⟩
    · rw [same calm₁ ⟨Nat.le_trans onward.1 fits.1, Nat.le_trans onward.2 fits.2⟩]
      exact next.same calm fits
    · by_cases halfway : m₁.Fits steps actions
      · rw [same calm₁ halfway]
        exact next.stopped calm halfway unfit
      · obtain ⟨f, m', rfl, why⟩ := stopped calm₁ fits halfway
        exact ⟨f, m', rfl, why⟩

theorem of_still {x : Exec d α} (still : Still x) (blind : Blind x) :
    Matches steps actions x x := by
  intro m
  obtain ⟨unpaid, unrecorded⟩ := still m
  have recorded : (x.run m).2.recorded = m.recorded := by simp only [Machine.recorded, unrecorded]
  refine ⟨⟨Nat.le_of_eq unpaid.symm, Nat.le_of_eq recorded.symm⟩, fun _ _ => blind m actions,
    fun _ fits unfit => absurd ?_ unfit⟩
  exact ⟨unpaid ▸ fits.1, recorded ▸ fits.2⟩

/-- Charges match when neither clock passes its deadline. -/
theorem tick {l l' : Limits} (timely : ∀ n, ¬l.clock n > l.deadline)
    (timely' : ∀ n, ¬l'.clock n > l'.deadline) :
    Matches l'.stepBudget actions (Exec.tick l : Exec d Unit) (Exec.tick l') := by
  intro m
  rw [run_tick, run_tick]
  simp only [timely, timely', if_false]
  refine ⟨⟨Nat.le_succ _, Nat.le_refl _⟩, fun calm fits => ?_, fun calm fits unfit => ?_⟩
  · have granted : ¬((m.steps + 1 : Nat) : Int) > l'.stepBudget := by
      have := fits.1
      dsimp only at this
      omega
    have own : ¬((m.steps + 1 : Nat) : Int) > l.stepBudget := by
      intro refused
      simp only [refused, if_true] at calm
      exact calm _ rfl rfl
    simp only [own, if_false]
    simp only [Machine.allowing, granted, if_false]
  · have refused : ((m.steps + 1 : Nat) : Int) > l'.stepBudget := by
      have low := fits.2
      have high : ¬m.steps + 1 ≤ l'.stepBudget.toNat := fun within => unfit ⟨within, low⟩
      omega
    simp only [Machine.allowing, refused, if_true]
    exact ⟨_, _, rfl, .inl rfl⟩

theorem invoke (name : String) (args : List Value) :
    Matches steps actions (Exec.invoke name args : Exec d Unit) (Exec.invoke name args) := by
  intro m
  rw [run_invoke, run_invoke]
  simp only [Registry.invoke, Machine.allowing,
    show (m.registry.allowing actions).respond name args = m.registry.respond name args from rfl]
  match m.registry.respond name args with
  | .error f =>
    exact ⟨⟨Nat.le_refl _, Nat.le_refl _⟩, fun _ _ => rfl, fun _ fits unfit => absurd fits unfit⟩
  | .ok (.answers v) =>
    exact ⟨⟨Nat.le_refl _, Nat.le_refl _⟩, fun _ _ => rfl, fun _ fits unfit => absurd fits unfit⟩
  | .ok (.acts shadow a) =>
    simp only [Registry.record, Registry.allowing]
    by_cases full : (m.registry.trace.length : Int) ≥ m.registry.maxActions
    · simp only [full, if_true]
      have hurried : ¬Unhurried (.error (.tooManyActions m.registry.maxActions) :
          Except Fault Unit) := fun calm => calm _ rfl rfl
      exact ⟨⟨Nat.le_refl _, Nat.le_refl _⟩, fun calm => absurd calm hurried,
        fun calm => absurd calm hurried⟩
    · simp only [full, if_false]
      have longer : (m.registry.trace ++ [a]).length = m.registry.trace.length + 1 :=
        List.length_append
      refine ⟨⟨Nat.le_refl _, Nat.le.intro longer.symm⟩, fun _ fits => ?_, fun _ fits unfit => ?_⟩
      · have room : ¬(m.registry.trace.length : Int) ≥ actions := by
          have few := fits.2
          simp only [Machine.recorded, longer] at few
          omega
        simp only [room, if_false]
        rfl
      · have full' : (m.registry.trace.length : Int) ≥ actions := by
          have low := fits.1
          have many : ¬m.registry.trace.length + 1 ≤ actions.toNat :=
            fun within => unfit ⟨low, Nat.le_trans (Nat.le_of_eq longer) within⟩
          omega
        simp only [full', if_true]
        exact ⟨_, _, rfl, .inr rfl⟩

section

variable {l l' : Limits} (timely : ∀ n, ¬l.clock n > l.deadline)
  (timely' : ∀ n, ¬l'.clock n > l'.deadline)

include timely timely'

theorem enter {id : Value} {f g : Unit → Exec d α}
    (h : ∀ u, Matches l'.stepBudget actions (f u) (g u)) :
    Matches l'.stepBudget actions (Task.enter l id >>= f) (Task.enter l' id >>= g) :=
  ((tick timely timely').bind fun _ => of_still (.atBlock id) (.atBlock id)).bind h

theorem enterTurn (var stop step value : Value) : Matches l'.stepBudget actions
    (Task.enterTurn l var stop step value : Exec d Bool)
    (Task.enterTurn l' var stop step value) := by
  refine (of_still (Still.goesOn stop step value) (Blind.goesOn stop step value)).bind
    fun go => ?_
  cases go with
  | true =>
    exact (tick timely timely').bind fun _ => of_still
      ((Still.assign var value).bind fun _ => Still.pure _)
      ((Blind.assign var value).bind fun _ => Blind.pure _)
  | false =>
    simp only [Bool.false_eq_true, if_false]
    exact of_still (Still.pure false) (Blind.pure false)

/-- Taking a task apart does the same under all budgets that it fits into. -/
theorem takeApart (t : Task) : Matches l'.stepBudget actions
    (t.takeApart l : Exec d (List Task)) (t.takeApart l') := by
  cases t with
  | stmt s =>
    cases s with
    | call name args id =>
      exact enter timely timely' fun _ => (of_still (.evaluateAll args) (.evaluateAll args)).bind
        fun vs => (invoke name vs).bind fun _ => of_still (.pure []) (.pure [])
    | loop times body id =>
      exact enter timely timely' fun _ => of_still
        ((Still.evaluate times).bind fun _ => (Still.lift _).bind fun _ => Still.pure _)
        ((Blind.evaluate times).bind fun _ => (Blind.lift _).bind fun _ => Blind.pure _)
    | count var start stop step body id =>
      exact enter timely timely' fun _ => of_still
        ((Still.countRange _ _ _).bind fun _ => Still.pure _)
        ((Blind.countRange _ _ _).bind fun _ => Blind.pure _)
    | each var collection body id =>
      exact enter timely timely' fun _ => of_still
        (Still.get.bind fun _ => (Still.lift _).bind fun _ => Still.pure _)
        ((Blind.collection collection).bind fun _ => Blind.pure _)
    | branch condition body otherwise id =>
      exact enter timely timely' fun _ => of_still
        ((Still.evaluate condition).bind fun _ => Still.pure _)
        ((Blind.evaluate condition).bind fun _ => Blind.pure _)
    | assign name value id =>
      exact enter timely timely' fun _ => of_still
        ((Still.evaluate value).bind fun v => (Still.assign name v).bind fun _ => Still.pure [])
        ((Blind.evaluate value).bind fun v => (Blind.assign name v).bind fun _ => Blind.pure [])
    | unknown kind => exact (tick timely timely').bind fun _ => of_still (.throw _) (.throw _)
  | turns n body =>
    cases n with
    | zero => exact of_still (.pure []) (.pure [])
    | succ n => exact (tick timely timely').bind fun _ => of_still (.pure _) (.pure _)
  | each var items body =>
    cases items with
    | nil => exact of_still (.pure []) (.pure [])
    | cons item rest =>
      exact (tick timely timely').bind fun _ => of_still
        ((Still.assign var item).bind fun _ => Still.pure _)
        ((Blind.assign var item).bind fun _ => Blind.pure _)
  | count var stop step value body =>
    refine (enterTurn timely timely' var stop step value).bind fun go => ?_
    cases go with
    | true => exact of_still (.pure _) (.pure _)
    | false => exact of_still (.pure []) (.pure [])
  | moveOn var stop step value body =>
    exact of_still ((Still.sum value step).bind fun _ => Still.pure _)
      ((Blind.sum value step).bind fun _ => Blind.pure _)

end

end Matches

end Exec

namespace Runs

variable {l l' : Limits} {actions : Int} {ts : List Task} {m m' : Machine d}
  {x : Except Fault Unit}

/-- Nothing that was spent is ever given back. -/
theorem forward (h : Runs l ts m x m') (timely : ∀ n, ¬l.clock n > l.deadline) :
    m.steps ≤ m'.steps ∧ m.recorded ≤ m'.recorded := by
  induction h with
  | done => exact ⟨Nat.le_refl _, Nat.le_refl _⟩
  | @fails t ts m m' f failed =>
    have step : Exec.Match l.stepBudget 0 m _ _ := Exec.Matches.takeApart timely timely t m
    rw [failed] at step
    exact step.forward
  | @goesOn t ts parts m m' m'' x taken _ ih =>
    have step : Exec.Match l.stepBudget 0 m _ _ := Exec.Matches.takeApart timely timely t m
    rw [taken] at step
    exact ⟨Nat.le_trans step.forward.1 ih.1, Nat.le_trans step.forward.2 ih.2⟩

variable (timely : ∀ n, ¬l.clock n > l.deadline) (timely' : ∀ n, ¬l'.clock n > l'.deadline)

include timely timely'

/-- Budgets that are enough for a run lead to the same end. -/
theorem under_enough (h : Runs l ts m x m') (calm : Unhurried x)
    (fits : m'.Fits l'.stepBudget actions) :
    Runs l' ts (m.allowing actions) x (m'.allowing actions) := by
  induction h with
  | done => exact .done _
  | @fails t ts m m' f failed =>
    have step : Exec.Match l'.stepBudget actions m _ _ := Exec.Matches.takeApart timely timely' t m
    rw [failed] at step
    exact .fails (step.same (fun f same => calm f (by cases same; rfl)) fits)
  | @goesOn t ts parts m m' m'' x taken rest ih =>
    have step : Exec.Match l'.stepBudget actions m _ _ := Exec.Matches.takeApart timely timely' t m
    rw [taken] at step
    have onward := rest.forward timely
    exact .goesOn (step.same nofun ⟨Nat.le_trans onward.1 fits.1, Nat.le_trans onward.2 fits.2⟩)
      (ih calm fits)

/-- Budgets that are not enough for a run cut it short. -/
theorem under_few (h : Runs l ts m x m') (calm : Unhurried x) (fits : m.Fits l'.stepBudget actions)
    (unfit : ¬m'.Fits l'.stepBudget actions) :
    ∃ f m'', Runs l' ts (m.allowing actions) (.error f) m'' ∧ UsedUp l'.stepBudget actions f := by
  induction h with
  | done => exact absurd fits unfit
  | @fails t ts m m' f failed =>
    have step : Exec.Match l'.stepBudget actions m _ _ := Exec.Matches.takeApart timely timely' t m
    rw [failed] at step
    obtain ⟨f', m'', stopped, why⟩ :=
      step.stopped (fun f same => calm f (by cases same; rfl)) fits unfit
    exact ⟨f', m'', .fails stopped, why⟩
  | @goesOn t ts parts m m' m'' x taken rest ih =>
    have step : Exec.Match l'.stepBudget actions m _ _ := Exec.Matches.takeApart timely timely' t m
    rw [taken] at step
    by_cases halfway : m'.Fits l'.stepBudget actions
    · obtain ⟨f', end', cut, why⟩ := ih calm halfway unfit
      exact ⟨f', end', .goesOn (step.same nofun halfway) cut, why⟩
    · obtain ⟨f', end', stopped, why⟩ := step.stopped nofun fits halfway
      exact ⟨f', end', .fails stopped, why⟩

end Runs

/-- The deadline of a run can be told, and its clock never passes it. -/
structure Limits.Timely (l : Limits) : Prop where
  told : l.seconds?.isNone = false
  inTime : ∀ n, ¬l.clock n > l.deadline

namespace Outcome

/-- A run that a budget or the deadline ended. -/
def TimedOut : Outcome → Prop
  | finished .. => False
  | failed diagnostic _ => diagnostic.kind = .timeout

instance : DecidablePred TimedOut
  | finished .. => isFalse id
  | failed diagnostic _ => inferInstanceAs (Decidable (diagnostic.kind = .timeout))

end Outcome

namespace Program

theorem conclude_usedUp {steps actions : Int} {f : Fault} (m : Machine d)
    (steps_written : (Value.int steps).writable) (actions_written : (Value.int actions).writable)
    (why : UsedUp steps actions f) :
    conclude (.error f, m) = .ok (.failed { kind := .timeout, message := f.message } []) := by
  rcases why with rfl | rfl
  · simp only [conclude, Fault.writable, steps_written, if_true]
    rfl
  · simp only [conclude, Fault.writable, actions_written, if_true]
    rfl

/-- A timeout is reported for faults of budgets only, and for all of them. -/
theorem unhurried_of_conclude {x : Except Fault Unit} {m : Machine d} {o : Outcome}
    (ended : conclude (x, m) = .ok o) (calm : ¬o.TimedOut) : Unhurried x := by
  rintro f rfl kind
  cases f with
  | tooManyActions | tooManySteps | outOfTime =>
    simp only [conclude] at ended
    split at ended
    next =>
      cases ended
      exact calm rfl
    next => cases ended
  | _ => cases kind

theorem conclude_allowing (x : Except Fault Unit) (m : Machine d) (actions : Int) :
    conclude (x, m.allowing actions) = conclude (x, m) := by
  cases x with
  | ok u => rfl
  | error f => cases f <;> rfl

theorem run_timely {l : Limits} (timely : l.Timely) (p : Program) (r : Registry d) :
    p.run l r = conclude (p.finalMachine l r) := by
  simp only [run, timely.told, Bool.false_eq_true, if_false]

/-- Another budget makes another registry of the same bookkeeping. -/
theorem create_allowing {level : d.Level} {a a' : Int} {r r' : Registry d}
    (own : Registry.create level a = .ok r) (other : Registry.create level a' = .ok r') :
    r.trace = [] ∧ r' = r.allowing a' := by
  obtain ⟨shadow, made, done⟩ := bind_eq_ok.mp own
  obtain ⟨shadow', made', done'⟩ := bind_eq_ok.mp other
  cases made.symm.trans made'
  cases done
  cases done'
  exact ⟨rfl, rfl⟩

/-- A run that does not time out, and that takes `n` steps and records `k` actions, has the same
outcome under every budget of at least `n` steps and of at least `k` actions, and times out, without
a trace, under every other. A budget below zero allows as much as none. -/
theorem exact_budgets (p : Program) {level : d.Level} {a a' : Int} {r r' : Registry d}
    {l l' : Limits} {o : Outcome} (own : Registry.create level a = .ok r)
    (other : Registry.create level a' = .ok r') (timely : l.Timely) (timely' : l'.Timely)
    (steps_written : (Value.int l'.stepBudget).writable)
    (actions_written : (Value.int a').writable)
    (ended : p.run l r = .ok o) (calm : ¬o.TimedOut) :
    let m := (p.finalMachine l r).2
    (m.steps ≤ max l'.stepBudget 0 ∧ m.recorded ≤ max a' 0 → p.run l' r' = .ok o) ∧
      (max l'.stepBudget 0 < m.steps ∨ max a' 0 < m.recorded →
        ∃ message, p.run l' r' = .ok (.failed { kind := .timeout, message } [])) := by
  intro m
  obtain ⟨fresh, rfl⟩ := create_allowing own other
  rw [run_timely timely] at ended
  rw [run_timely timely']
  have ran := p.runs_finalMachine l r
  have ran' := p.runs_finalMachine l' (r.allowing a')
  have unhurried : Unhurried (p.finalMachine l r).1 := unhurried_of_conclude ended calm
  refine ⟨?_, fun few => ?_⟩
  · rintro ⟨steps, actions⟩
    have fits : m.Fits l'.stepBudget a' := ⟨by omega, by omega⟩
    obtain ⟨same, same'⟩ := ran'.unique
      (ran.under_enough timely.inTime timely'.inTime unhurried fits)
    calc conclude (p.finalMachine l' (r.allowing a'))
      _ = conclude ((p.finalMachine l r).1, (p.finalMachine l r).2.allowing a') := by
        rw [← same, ← same']
      _ = conclude (p.finalMachine l r) := conclude_allowing _ _ a'
      _ = .ok o := ended
  · have empty : (Machine.mk r [] 0 .null).Fits l'.stepBudget a' :=
      ⟨Nat.zero_le _, by simp only [Machine.recorded, fresh, List.length_nil, Nat.zero_le]⟩
    have unfit : ¬m.Fits l'.stepBudget a' := by
      rintro ⟨steps, actions⟩
      omega
    obtain ⟨f, m', cut, why⟩ :=
      ran.under_few timely.inTime timely'.inTime unhurried empty unfit
    obtain ⟨stopped, -⟩ := ran'.unique cut
    refine ⟨f.message, ?_⟩
    rw [← conclude_usedUp _ steps_written actions_written why, ← stopped]

/-- Two swaps in two turns of a loop, under just enough steps and under one swap too few. -/
theorem exact_budgets_swaps :
    let level : Sorting.Level :=
      { header := { id := .number 1, name := "Two" }, potions := [2, 1]
        goal := .sortedWithBudget .ascending none }
    let p : Program := ⟨[.loop (.literal 2) [.call "swap" [.literal 0, .literal 1] .null] .null], 2⟩
    let allowing (actions : Int) : Registry .sorting :=
      { shadow := Sorting.Shadow.initial level, maxActions := actions }
    p.run { stepBudget := 5 } (allowing 2) = p.run {} (allowing 1000) ∧
      ∃ message, p.run { stepBudget := 5 } (allowing 1) =
        .ok (.failed { kind := .timeout, message } []) := by
  intro level p allowing
  have told : (Limits.seconds? {}).isNone = false := rfl
  have early : ¬(0 : Float) > Limits.deadline {} := by decide +kernel
  have timely (steps : Int) : Limits.Timely { stepBudget := steps } := ⟨told, fun _ => early⟩
  have ends : ((p.run {} (allowing 1000)).toOption.any fun o => ¬o.TimedOut) = true := by
    decide +kernel
  cases ended : p.run {} (allowing 1000) with
  | error f =>
    rw [ended] at ends
    cases ends
  | ok o =>
    rw [ended] at ends
    have budgets (actions : Int) (written : (Value.int actions).writable) :=
      @exact_budgets .sorting p level 1000 actions (allowing 1000) (allowing actions) {}
        { stepBudget := 5 } o rfl rfl (timely _) (timely _) (by decide +kernel) written ended
        (of_decide_eq_true ends)
    exact ⟨(budgets 2 (by decide +kernel)).1 (by decide +kernel),
      (budgets 1 (by decide +kernel)).2 (by decide +kernel)⟩

/-- Without anything to charge, a budget below zero is enough; and a budget may have too many digits
for a report on it. -/
theorem empty_below_zero :
    let level : Robot.Level :=
      { header := { id := .number 1, name := "Star" }, goal := .position 4 4 false }
    let r : Registry .robot := { shadow := Robot.Shadow.initial level, maxActions := 1000 }
    let step : Program := ⟨[.call "maju" [] .null], 1⟩
    Registry.create (d := .robot) level 1000 = .ok r ∧
      Program.run {} {} r = .ok (.finished [] []) ∧
      -1 < ((Program.finalMachine {} {} r).2.steps : Int) ∧
      Program.run {} { stepBudget := -1 } r = .ok (.finished [] []) ∧
      (step.run { stepBudget := -10 ^ 4300 } r).isOk = false :=
  ⟨rfl, rfl, by decide, rfl, by decide +kernel⟩

end Program

end PuzzleWorlds
