import PuzzleWorlds.Program.Run
import PuzzleWorlds.Proofs.RegistryCalls

/-! Programs done task by task, and their budgets. What is left of a program is a list of tasks: its
first task is taken apart, which charges a step wherever the program does, and its parts are left in
its place. Every statement and every turn of a loop is charged before it does anything, so whatever
a program is made of and whatever its loops count to, it comes to an end: its tasks run out, or a
charge is refused. What is recorded has been charged. -/

namespace PuzzleWorlds

/-- A statement, or what is left of a loop. Before a counter is looked at again it moves on. -/
inductive Task where
  | stmt (s : Stmt)
  | turns (n : Nat) (body : List Stmt)
  | each (var : Value) (items : List Value) (body : List Stmt)
  | count (var stop step value : Value) (body : List Stmt)
  | moveOn (var stop step value : Value) (body : List Stmt)

namespace Task

variable {d : Domain}

/-- The charge of a statement, which is the current one from then on. -/
def enter (l : Limits) (id : Value) : Exec d Unit := do
  Exec.tick l
  Exec.atBlock id

/-- A turn of a counting loop, unless the counter has passed the end. -/
def enterTurn (l : Limits) (var stop step value : Value) : Exec d Bool := do
  if ← Exec.goesOn stop step value then
    Exec.tick l
    Exec.assign var value
    return true
  else return false

/-- Does what a task does by itself; its parts are left to do. -/
def takeApart (l : Limits) : Task → Exec d (List Task)
  | stmt (.call name args id) => do
    enter l id
    Exec.invoke name (← Exec.evaluateAll args)
    return []
  | stmt (.loop times body id) => do
    enter l id
    let n ← Exec.lift (asInt "repeat count" (← Exec.evaluate times))
    return [turns n.toNat body]
  | stmt (.count var start stop step body id) => do
    enter l id
    let (first, last, step) ← Exec.countRange start stop step
    return [count var last step first body]
  | stmt (.each var collection body id) => do
    enter l id
    let items ← Exec.lift ((← get).registry.collection collection)
    return [each var items body]
  | stmt (.branch condition body otherwise id) => do
    enter l id
    let chosen := if (← Exec.evaluate condition).truthy then body else otherwise
    return chosen.map stmt
  | stmt (.assign name value id) => do
    enter l id
    Exec.assign name (← Exec.evaluate value)
    return []
  | stmt (.unknown kind) => do
    Exec.tick l
    throw (.misfit (.noAttribute kind "block_id"))
  | turns 0 _ => return []
  | turns (n + 1) body => do
    Exec.tick l
    return body.map stmt ++ [turns n body]
  | each _ [] _ => return []
  | each var (item :: rest) body => do
    Exec.tick l
    Exec.assign var item
    return body.map stmt ++ [each var rest body]
  | count var stop step value body => do
    if ← enterTurn l var stop step value then
      return body.map stmt ++ [moveOn var stop step value body]
    else return []
  | moveOn var stop step value body => do
    return [count var stop step (← Exec.sum value step) body]

end Task

/-- From one machine the tasks lead to a result and to another machine. -/
inductive Runs {d : Domain} (l : Limits) :
    List Task → Machine d → Except Fault Unit → Machine d → Prop
  | done (m : Machine d) : Runs l [] m (.ok ()) m
  | fails {t : Task} {ts : List Task} {m m' : Machine d} {f : Fault} :
    (t.takeApart l).run m = (.error f, m') → Runs l (t :: ts) m (.error f) m'
  | goesOn {t : Task} {ts parts : List Task} {m m' m'' : Machine d} {x : Except Fault Unit} :
    (t.takeApart l).run m = (.ok parts, m') → Runs l (parts ++ ts) m' x m'' →
    Runs l (t :: ts) m x m''

/-- Tasks lead to one result only. -/
theorem Runs.unique {d : Domain} {l : Limits} {ts : List Task} {m m₁ m₂ : Machine d}
    {x₁ x₂ : Except Fault Unit} (first : Runs l ts m x₁ m₁) (second : Runs l ts m x₂ m₂) :
    x₁ = x₂ ∧ m₁ = m₂ := by
  induction first with
  | done =>
    cases second
    exact ⟨rfl, rfl⟩
  | fails failed =>
    cases second with
    | fails failed' =>
      cases failed.symm.trans failed'
      exact ⟨rfl, rfl⟩
    | goesOn taken => cases failed.symm.trans taken
  | goesOn taken _ ih =>
    cases second with
    | fails failed => cases taken.symm.trans failed
    | goesOn taken' rest =>
      cases taken.symm.trans taken'
      exact ih rest

variable {d : Domain}

namespace Exec

theorem run_bind (x : Exec d α) (f : α → Exec d β) (m : Machine d) :
    (x >>= f).run m = match x.run m with
      | (.ok a, m') => (f a).run m'
      | (.error e, m') => (.error e, m') := by
  unfold ExceptT.run
  simp only [bind, ExceptT.bind, ExceptT.mk, StateT.bind, ExceptT.bindCont]
  cases x m with
  | mk result next => cases result <;> rfl

theorem run_tick (l : Limits) (m : Machine d) : (tick l).run m =
    (if (m.steps + 1 : Nat) > l.stepBudget then .error (.tooManySteps l.stepBudget)
      else if l.clock (m.steps + 1) > l.deadline then .error .outOfTime else .ok (),
      { m with steps := m.steps + 1 }) := by
  change (if _ > _ then throw _ else if _ > _ then throw _ else pure () : Exec d Unit).run _ = _
  split
  next => rfl
  next =>
    split
    next => rfl
    next => rfl

/-- A charge that is granted is within the budget. -/
theorem run_tick_ok {l : Limits} {m m' : Machine d} {u : Unit}
    (h : (tick l).run m = (.ok u, m')) :
    m' = { m with steps := m.steps + 1 } ∧ m'.steps ≤ l.stepBudget.toNat := by
  rw [run_tick] at h
  obtain ⟨granted, rfl⟩ := Prod.mk.inj h
  split at granted
  next => cases granted
  next low =>
    refine ⟨rfl, ?_⟩
    dsimp only
    omega

theorem run_invoke (name : String) (args : List Value) (m : Machine d) :
    (invoke name args).run m = ((m.registry.invoke name args).1.map fun _ => (),
      { m with registry := (m.registry.invoke name args).2 }) := by
  change (discard (lift (m.registry.invoke name args).1) : Exec d Unit).run
    { m with registry := (m.registry.invoke name args).2 } = _
  cases (m.registry.invoke name args).1 with
  | ok v => rfl
  | error f => rfl

/-- Neither a charge nor a call of the registry. -/
def Still (x : Exec d α) : Prop :=
  ∀ m, (x.run m).2.steps = m.steps ∧ (x.run m).2.registry = m.registry

namespace Still

theorem bind {x : Exec d α} {f : α → Exec d β} (first : Still x) (second : ∀ a, Still (f a)) :
    Still (x >>= f) := by
  intro m
  rw [run_bind]
  have before := first m
  split
  next a m' done =>
    rw [done] at before
    exact ⟨(second a m').1.trans before.1, (second a m').2.trans before.2⟩
  next e m' done =>
    rw [done] at before
    exact before

theorem pure (a : α) : Still (Pure.pure a : Exec d α) := fun _ => ⟨rfl, rfl⟩

theorem throw (f : Fault) : Still (MonadExcept.throw f : Exec d α) := fun _ => ⟨rfl, rfl⟩

theorem get : Still (MonadState.get : Exec d (Machine d)) := fun _ => ⟨rfl, rfl⟩

theorem lift (x : Except Fault α) : Still (lift x : Exec d α) := fun _ => ⟨rfl, rfl⟩

theorem evaluate (e : Expr) : Still (evaluate e : Exec d Value) := fun _ => ⟨rfl, rfl⟩

theorem evaluateAll (es : List Expr) : Still (evaluateAll es : Exec d (List Value)) :=
  fun _ => ⟨rfl, rfl⟩

theorem atBlock (id : Value) : Still (atBlock id : Exec d Unit) := by
  intro m
  unfold Exec.atBlock
  split
  next => exact ⟨rfl, rfl⟩
  next => exact ⟨rfl, rfl⟩

theorem assign (name v : Value) : Still (assign name v : Exec d Unit) := by
  intro m
  unfold Exec.assign
  split
  next => exact ⟨rfl, rfl⟩
  next => exact ⟨rfl, rfl⟩

theorem ordered (c : Value.Comparison) (a b : Value) : Still (ordered c a b : Exec d Bool) := by
  intro m
  unfold Exec.ordered
  split
  next => exact ⟨rfl, rfl⟩
  next => exact ⟨rfl, rfl⟩

theorem sum (a b : Value) : Still (sum a b : Exec d Value) := by
  intro m
  unfold Exec.sum
  split
  next => exact ⟨rfl, rfl⟩
  next => exact ⟨rfl, rfl⟩

theorem goesOn (stop step value : Value) : Still (goesOn stop step value : Exec d Bool) :=
  (ordered _ _ _).bind fun _ => ordered _ _ _

theorem stepOf (e : Option Expr) : Still (stepOf e : Exec d Value) := by
  cases e with
  | none => exact pure 1
  | some e => exact (evaluate e).bind fun _ => (lift _).bind fun _ => pure _

theorem countRange (start stop : Expr) (step : Option Expr) :
    Still (countRange start stop step : Exec d (Value × Value × Value)) := by
  refine (evaluate _).bind fun _ => (lift _).bind fun _ => (evaluate _).bind fun _ =>
    (lift _).bind fun _ => (stepOf _).bind fun size => ?_
  split
  next => exact (throw _).bind fun _ => (ordered _ _ _).bind fun _ => pure _
  next => exact (ordered _ _ _).bind fun _ => pure _

end Still

end Exec

namespace Machine

/-- The number of actions recorded so far. -/
def recorded (m : Machine d) : Nat := m.registry.trace.length

/-- The steps of a machine that were granted: only the last charge is ever refused. -/
def granted (l : Limits) (m : Machine d) : Nat := min m.steps l.stepBudget.toNat

end Machine

/-- What the way from one machine to another costs; `ok` tells that it did not fail. -/
structure Spends (l : Limits) (ok : Bool) (m m' : Machine d) : Prop where
  maxActions : m'.registry.maxActions = m.registry.maxActions
  forward : m.steps ≤ m'.steps
  within : ok = true → m.steps ≤ l.stepBudget.toNat → m'.steps ≤ l.stepBudget.toNat
  overrun : m.steps ≤ l.stepBudget.toNat → m'.steps ≤ l.stepBudget.toNat + 1
  charged : m'.recorded + m.granted l ≤ m.recorded + m'.granted l
  room : m.recorded ≤ m.registry.maxActions.toNat → m'.recorded ≤ m.registry.maxActions.toNat

namespace Spends

variable {l : Limits} {ok : Bool} {m m' m'' : Machine d}

theorem of_eq (steps : m'.steps = m.steps) (registry : m'.registry = m.registry) :
    Spends l ok m m' where
  maxActions := by rw [registry]
  forward := by omega
  within := by omega
  overrun := by omega
  charged := by simp only [Machine.recorded, Machine.granted, steps, registry, Nat.le_refl]
  room := by simp only [Machine.recorded, registry, imp_self]

theorem trans (first : Spends l true m m') (second : Spends l ok m' m'') : Spends l ok m m'' where
  maxActions := second.maxActions.trans first.maxActions
  forward := Nat.le_trans first.forward second.forward
  within done low := second.within done (first.within rfl low)
  overrun low := second.overrun (first.within rfl low)
  charged := by
    have before := first.charged
    have after := second.charged
    omega
  room low := by
    have after := second.room
    rw [first.maxActions] at after
    exact after (first.room low)

end Spends

namespace Exec

/-- Code that spends steps, and records only what it was granted a step for. -/
def Frugal (l : Limits) (x : Exec d α) : Prop :=
  ∀ m, Spends l (x.run m).1.isOk m (x.run m).2

/-- Code without a charge that records one action at most. -/
def Records (x : Exec d α) : Prop := ∀ m, (x.run m).2.steps = m.steps ∧
  (x.run m).2.registry.maxActions = m.registry.maxActions ∧
  (x.run m).2.recorded ≤ m.recorded + 1 ∧
  (m.recorded ≤ m.registry.maxActions.toNat →
    (x.run m).2.recorded ≤ m.registry.maxActions.toNat)

theorem Still.records {x : Exec d α} (h : Still x) : Records x := by
  intro m
  obtain ⟨steps, registry⟩ := h m
  refine ⟨steps, by rw [registry], ?_, ?_⟩
  · simp only [Machine.recorded, registry, Nat.le_succ]
  · simp only [Machine.recorded, registry, imp_self]

theorem Still.then_records {x : Exec d α} {f : α → Exec d β} (first : Still x)
    (second : ∀ a, Records (f a)) : Records (x >>= f) := by
  intro m
  rw [run_bind]
  have before := first m
  split
  next a m' done =>
    rw [done] at before
    have same : m'.recorded = m.recorded := congrArg (fun r => r.trace.length) before.2
    obtain ⟨steps, limit, count, room⟩ := second a m'
    rw [before.2] at limit room
    rw [same] at count room
    exact ⟨steps.trans before.1, limit, count, room⟩
  next e m' done =>
    have records := first.records m
    rw [done] at records
    exact records

theorem Records.then_still {x : Exec d α} {f : α → Exec d β} (first : Records x)
    (second : ∀ a, Still (f a)) : Records (x >>= f) := by
  intro m
  rw [run_bind]
  have before := first m
  split
  next a m' done =>
    rw [done] at before
    obtain ⟨steps, registry⟩ := second a m'
    simp only [Machine.recorded, registry]
    exact ⟨steps.trans before.1, before.2⟩
  next e m' done =>
    rw [done] at before
    exact before

theorem Records.invoke (name : String) (args : List Value) :
    Records (invoke name args : Exec d Unit) := by
  intro m
  rw [run_invoke]
  have move := m.registry.invokes ⟨name, args⟩
  refine ⟨rfl, ?_⟩
  simp only [Machine.recorded]
  generalize (m.registry.invoke name args).1 = x, (m.registry.invoke name args).2 = r' at move ⊢
  cases move with
  | refuses | answers | exhausts => exact ⟨rfl, Nat.le_succ _, id⟩
  | acts _ room =>
    refine ⟨rfl, ?_, fun _ => ?_⟩
    · exact Nat.le_of_eq List.length_append
    · rw [List.length_append, List.length_singleton]
      omega

namespace Frugal

variable {l : Limits}

theorem bind {x : Exec d α} {f : α → Exec d β} (first : Frugal l x) (second : ∀ a, Frugal l (f a)) :
    Frugal l (x >>= f) := by
  intro m
  rw [run_bind]
  have before := first m
  split
  next a m' done =>
    rw [done] at before
    exact before.trans (second a m')
  next e m' done =>
    rw [done] at before
    exact before

theorem of_still {x : Exec d α} (h : Still x) : Frugal l x :=
  fun m => .of_eq (h m).1 (h m).2

/-- A charge pays for one action. -/
theorem charge {f : Unit → Exec d α} (h : ∀ u, Records (f u)) : Frugal l (tick l >>= f) := by
  intro m
  rw [run_bind]
  split
  next u m' done =>
    obtain ⟨rfl, enough⟩ := run_tick_ok done
    obtain ⟨steps, limit, count, room⟩ := h u { m with steps := m.steps + 1 }
    simp only [Machine.recorded] at *
    refine ⟨limit, by omega, by omega, by omega, ?_, room⟩
    simp only [Machine.recorded, Machine.granted]
    omega
  next e m' done =>
    rw [run_tick] at done
    obtain ⟨_, rfl⟩ := Prod.mk.inj done
    refine ⟨rfl, Nat.le_succ _, nofun, fun low => Nat.succ_le_succ low, ?_, id⟩
    simp only [Machine.recorded, Machine.granted]
    omega

/-- Code that was entered has been granted a step. -/
theorem entered_within {id : Value} {f : Unit → Exec d α} (h : ∀ u, Still (f u))
    {m m' : Machine d} {a : α} (ran : (Task.enter l id >>= f).run m = (.ok a, m')) :
    m'.steps ≤ l.stepBudget.toNat := by
  unfold Task.enter at ran
  rw [bind_assoc, run_bind] at ran
  split at ran
  next u m₁ charged =>
    have still := ((Still.atBlock id).bind h) m₁
    rw [ran] at still
    rw [still.1]
    exact (run_tick_ok charged).2
  next => cases ran

theorem enter {id : Value} {f : Unit → Exec d α} (h : ∀ u, Records (f u)) :
    Frugal l (Task.enter l id >>= f) := by
  unfold Task.enter
  rw [bind_assoc]
  exact charge fun _ => (Still.atBlock id).then_records h

end Frugal

end Exec

open Exec in
theorem Task.enterTurn_frugal (l : Limits) (var stop step value : Value) :
    Frugal l (enterTurn l var stop step value : Exec d Bool) := by
  refine .bind (.of_still (Still.goesOn stop step value)) fun go => ?_
  cases go with
  | true => exact .charge fun _ => ((Still.assign var value).bind fun _ => Still.pure _).records
  | false => exact .of_still (Still.pure false)

/-- A turn that is entered has been charged. -/
theorem Task.enterTurn_steps {l : Limits} {var stop step value : Value} {m m' : Machine d}
    (h : (enterTurn l var stop step value).run m = (.ok true, m')) : m'.steps = m.steps + 1 := by
  rw [enterTurn, Exec.run_bind] at h
  have looked := Exec.Still.goesOn stop step value m
  split at h
  next go m₁ here =>
    rw [here] at looked
    cases go with
    | false => cases h
    | true =>
      replace h : (Exec.tick l >>= fun _ => Exec.assign var value >>= fun _ => pure true).run m₁ =
        (.ok true, m') := h
      rw [Exec.run_bind] at h
      split at h
      next u m₂ charged =>
        obtain ⟨rfl, _⟩ := Exec.run_tick_ok charged
        have assigned := ((Exec.Still.assign var value).bind fun _ => Exec.Still.pure true)
          { m₁ with steps := m₁.steps + 1 }
        rw [h] at assigned
        rw [assigned.1, ← looked.1]
      next => cases h
  next => cases h

open Exec in
/-- Taking a task apart costs at most one step, which is looked at first. -/
theorem Task.takeApart_frugal (l : Limits) (t : Task) :
    Frugal l (t.takeApart l : Exec d (List Task)) := by
  cases t with
  | stmt s =>
    cases s with
    | call name args id =>
      exact .enter fun _ => (Still.evaluateAll args).then_records fun vs =>
        (Records.invoke name vs).then_still fun _ => Still.pure []
    | loop times body id =>
      exact .enter fun _ => ((Still.evaluate times).bind fun _ => (Still.lift _).bind fun _ =>
        Still.pure _).records
    | count var start stop step body id =>
      exact .enter fun _ => ((Still.countRange _ _ _).bind fun _ => Still.pure _).records
    | each var collection body id =>
      exact .enter fun _ => (Still.get.bind fun _ => (Still.lift _).bind fun _ =>
        Still.pure _).records
    | branch condition body otherwise id =>
      exact .enter fun _ => ((Still.evaluate condition).bind fun _ => Still.pure _).records
    | assign name value id =>
      exact .enter fun _ => ((Still.evaluate value).bind fun v =>
        (Still.assign name v).bind fun _ => Still.pure []).records
    | unknown kind => exact .charge fun _ => (Still.throw _).records
  | turns n body =>
    cases n with
    | zero => exact .of_still (Still.pure [])
    | succ n => exact .charge fun _ => (Still.pure _).records
  | each var items body =>
    cases items with
    | nil => exact .of_still (Still.pure [])
    | cons item rest =>
      exact .charge fun _ => ((Still.assign var item).bind fun _ => Still.pure _).records
  | count var stop step value body =>
    refine (enterTurn_frugal l var stop step value).bind fun go => ?_
    cases go with
    | true => exact .of_still (Still.pure _)
    | false => exact .of_still (Still.pure [])
  | moveOn var stop step value body =>
    exact .of_still ((Still.sum value step).bind fun _ => Still.pure _)

/-- A run of tasks spends no more than it is allowed to. -/
theorem Runs.spends {l : Limits} {ts : List Task} {m m' : Machine d} {x : Except Fault Unit}
    (h : Runs l ts m x m') : Spends l x.isOk m m' := by
  induction h with
  | done m => exact .of_eq rfl rfl
  | @fails t ts m m' f failed =>
    have step := t.takeApart_frugal l m
    rw [failed] at step
    exact step
  | @goesOn t ts parts m m' m'' x taken _ ih =>
    have step := t.takeApart_frugal l m
    rw [taken] at step
    exact step.trans ih

end PuzzleWorlds
