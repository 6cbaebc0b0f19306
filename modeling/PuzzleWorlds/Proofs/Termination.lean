import PuzzleWorlds.Proofs.StepBudget

/-! Programs end. Running a program does its tasks: the bound that a counting loop is run with is
never what ends it, since each turn is charged and the charges that are left are fewer. So every
program comes to the result that its tasks lead to, within its budgets. -/

namespace PuzzleWorlds

variable {d : Domain}

/-- From this machine the code comes to where the tasks lead, whatever is left to do after them. -/
structure Performs (l : Limits) (x : Exec d Unit) (ts : List Task) (m : Machine d) : Prop where
  ok : ∀ {m' m'' : Machine d} {rest : List Task} {y : Except Fault Unit},
    x.run m = (.ok (), m') → Runs l rest m' y m'' → Runs l (ts ++ rest) m y m''
  error : ∀ {m' : Machine d} {rest : List Task} {f : Fault},
    x.run m = (.error f, m') → Runs l (ts ++ rest) m (.error f) m'

namespace Performs

variable {l : Limits} {m : Machine d}

theorem nil : Performs l (pure ()) [] m where
  ok done rest := by
    cases done
    exact rest
  error failed := by cases failed

theorem seq {x y : Exec d Unit} {ts us : List Task} (first : Performs l x ts m)
    (second : ∀ m', x.run m = (.ok (), m') → Performs l y us m') :
    Performs l (x >>= fun _ => y) (ts ++ us) m where
  ok {m' m'' rest z} done after := by
    rw [Exec.run_bind] at done
    rw [List.append_assoc]
    split at done
    next m₁ here => exact first.ok here ((second m₁ here).ok done after)
    next => cases done
  error {m' rest f} failed := by
    rw [Exec.run_bind] at failed
    rw [List.append_assoc]
    split at failed
    next m₁ here => exact first.ok here ((second m₁ here).error failed)
    next here =>
      cases failed
      exact first.error here

/-- A task is performed by what it does by itself, followed by what performs its parts. -/
theorem takeApart {t : Task} {p : Exec d α} {f : α → List Task} {k : α → Exec d Unit}
    (own : t.takeApart l = p >>= fun a => pure (f a))
    (rest : ∀ a m', p.run m = (.ok a, m') → Performs l (k a) (f a) m') :
    Performs l (p >>= k) [t] m where
  ok {m' m'' others z} done after := by
    rw [Exec.run_bind] at done
    split at done
    next a m₁ here =>
      have taken : (t.takeApart l).run m = (.ok (f a), m₁) := by
        rw [own, Exec.run_bind, here]
        rfl
      exact .goesOn taken ((rest a m₁ here).ok done after)
    next => cases done
  error {m' others e} failed := by
    rw [Exec.run_bind] at failed
    split at failed
    next a m₁ here =>
      have taken : (t.takeApart l).run m = (.ok (f a), m₁) := by
        rw [own, Exec.run_bind, here]
        rfl
      exact .goesOn taken ((rest a m₁ here).error failed)
    next here =>
      cases failed
      have stopped : (t.takeApart l).run m = (.error e, m') := by
        rw [own, Exec.run_bind, here]
      exact .fails stopped

theorem get {k : Machine d → Exec d Unit} {ts : List Task} (h : Performs l (k m) ts m) :
    Performs l (MonadState.get >>= k) ts m :=
  ⟨h.ok, h.error⟩

/-- A task without parts. -/
theorem alone {t : Task} {x : Exec d Unit} (own : t.takeApart l = x >>= fun _ => pure []) :
    Performs l x [t] m := by
  have rest : ∀ (a : Unit) m', x.run m = (.ok a, m') →
      Performs l ((fun _ => pure ()) a : Exec d Unit) [] m' := fun _ _ _ => nil
  simpa using takeApart (f := fun _ => []) own rest

section

variable {body : Exec d Unit} {stmts : List Stmt}
  (performed : ∀ m, Performs l body (stmts.map .stmt) m)

include performed

theorem turns (n : Nat) (m : Machine d) : Performs l (Exec.turns l body n) [.turns n stmts] m := by
  induction n generalizing m with
  | zero => exact alone rfl
  | succ n ih =>
    exact takeApart rfl fun _ m' _ => (performed m').seq fun m'' _ => ih m''

theorem forEach (var : Value) (items : List Value) (m : Machine d) :
    Performs l (Exec.forEach l var body items) [.each var items stmts] m := by
  induction items generalizing m with
  | nil => exact alone rfl
  | cons item rest ih =>
    have own : (Task.each var (item :: rest) stmts).takeApart l =
        ((do Exec.tick l; Exec.assign var item) : Exec d Unit) >>= fun _ =>
          pure (stmts.map .stmt ++ [.each var rest stmts]) := by
      simp only [Task.takeApart, bind_assoc]
    have code : Exec.forEach l var body (item :: rest) =
        (do Exec.tick l; Exec.assign var item) >>= fun _ =>
          body >>= fun _ => Exec.forEach l var body rest := by
      simp only [Exec.forEach, bind_assoc]
    rw [code]
    exact takeApart own fun _ m' _ => (performed m').seq fun m'' _ => ih m''

/-- The bound of a counting loop is above the charges that are left, and stays so: a turn is charged
before the bound goes down by one. -/
theorem counting (var stop step value : Value) (bound : Nat) (m : Machine d)
    (within : m.steps ≤ l.stepBudget.toNat) (enough : l.stepBudget.toNat - m.steps < bound) :
    Performs l (Exec.counting l var stop step body value bound)
      [.count var stop step value stmts] m := by
  induction bound generalizing value m with
  | zero => omega
  | succ bound ih =>
    have own : (Task.count var stop step value stmts).takeApart l =
        (Task.enterTurn l var stop step value : Exec d Bool) >>= fun go =>
          pure (if go then stmts.map .stmt ++ [.moveOn var stop step value stmts] else []) := by
      refine congrArg (Task.enterTurn l var stop step value >>= ·) (funext fun go => ?_)
      cases go <;> rfl
    have code : Exec.counting l var stop step body value (bound + 1) =
        Task.enterTurn l var stop step value >>= fun go =>
          if go then body >>= fun _ => Exec.sum value step >>= fun next =>
            Exec.counting l var stop step body next bound else pure () := by
      simp only [Exec.counting, Task.enterTurn, bind_assoc]
      refine congrArg (Exec.goesOn stop step value >>= ·) (funext fun go => ?_)
      cases go <;> simp
    rw [code]
    refine takeApart own fun go m' entered => ?_
    cases go with
    | false => exact nil
    | true =>
      have charged := Task.enterTurn_steps entered
      have turn := Task.enterTurn_frugal l var stop step value m
      rw [entered] at turn
      have low : m'.steps ≤ l.stepBudget.toNat := turn.within rfl within
      refine (performed m').seq fun m'' ran => takeApart (k := fun next =>
        Exec.counting l var stop step body next bound) rfl fun next m₃ summed => ?_
      have spent := ((performed m').ok ran (.done m'')).spends
      have forward : m'.steps ≤ m''.steps := spent.forward
      have low' : m''.steps ≤ l.stepBudget.toNat := spent.within rfl low
      have same : m₃.steps = m''.steps := by
        rw [← (Exec.Still.sum value step m'').1, summed]
      exact ih next m₃ (by omega) (by omega)

end

end Performs

namespace Stmt

mutual

theorem performs (l : Limits) : (s : Stmt) → (m : Machine d) →
    Performs l (s.execute l) [.stmt s] m
  | .call name args id, m => by
    refine .alone ?_
    simp only [Task.takeApart, Task.enter, execute, bind_assoc]
  | .loop times body id, m => by
    have code : ((loop times body id).execute l : Exec d Unit) =
        (do
          Task.enter l id
          Exec.lift (asInt "repeat count" (← Exec.evaluate times))) >>= fun n =>
          Exec.turns l (executeAll l body) n.toNat := by
      simp only [execute, Task.enter, bind_assoc]
    rw [code]
    refine .takeApart ?_ fun n m' _ => .turns (performsAll l body) n.toNat m'
    simp only [Task.takeApart, bind_assoc]
  | .count var start stop step body id, m => by
    have code : ((count var start stop step body id).execute l : Exec d Unit) =
        (do
          Task.enter l id
          Exec.countRange start stop step) >>= fun range => get >>= fun m' =>
          Exec.counting l var range.2.1 range.2.2 (executeAll l body) range.1
            ((l.stepBudget - m'.steps).toNat + 2) := by
      simp only [execute, Exec.countLoop, Task.enter, bind_assoc]
    rw [code]
    refine .takeApart (f := fun range => [.count var range.2.1 range.2.2 range.1 body]) ?_
      fun range m' entered => ?_
    · simp only [Task.takeApart, bind_assoc]
    · have within : m'.steps ≤ l.stepBudget.toNat :=
        Exec.Frugal.entered_within (fun _ => Exec.Still.countRange start stop step) entered
      exact .get (.counting (performsAll l body) var _ _ _ _ m' within (by omega))
  | .each var collection body id, m => by
    have code : ((each var collection body id).execute l : Exec d Unit) =
        (do
          Task.enter l id
          Exec.lift ((← get).registry.collection collection)) >>= fun items =>
          Exec.forEach l var (executeAll l body) items := by
      simp only [execute, Task.enter, bind_assoc]
    rw [code]
    refine .takeApart ?_ fun items m' _ => .forEach (performsAll l body) var items m'
    simp only [Task.takeApart, bind_assoc]
  | .branch condition body otherwise id, m => by
    have code : ((branch condition body otherwise id).execute l : Exec d Unit) =
        (do
          Task.enter l id
          Exec.evaluate condition) >>= fun v =>
          if v.truthy then executeAll l body else executeAll l otherwise := by
      simp only [execute, Task.enter, bind_assoc]
    rw [code]
    refine .takeApart (f := fun v => (if v.truthy then body else otherwise).map .stmt) ?_
      fun v m' _ => ?_
    · simp only [Task.takeApart, bind_assoc]
    · split
      next => exact performsAll l body m'
      next => exact performsAll l otherwise m'
  | .assign name value id, m => by
    refine .alone ?_
    simp only [Task.takeApart, Task.enter, execute, bind_assoc]
  | .unknown kind, m => by
    refine .alone ?_
    simp only [Task.takeApart, execute, bind_assoc]
    rfl

theorem performsAll (l : Limits) : (body : List Stmt) → (m : Machine d) →
    Performs l (executeAll l body) (body.map .stmt) m
  | [], _ => by
    rw [executeAll]
    exact .nil
  | s :: rest, m => by
    rw [executeAll]
    exact (performs l s m).seq fun m' _ => performsAll l rest m'

end

end Stmt

/-- The tasks of a program lead to where its execution ends. -/
theorem Program.runs_finalMachine (p : Program) (l : Limits) (r : Registry d) :
    Runs l (p.statements.map .stmt) { registry := r } (p.finalMachine l r).1
      (p.finalMachine l r).2 := by
  have performed := Stmt.performsAll l p.statements { registry := r }
  rw [← List.append_nil (p.statements.map Task.stmt)]
  rcases ended : p.finalMachine l r with ⟨f | u, m⟩
  · exact performed.error ended
  · exact performed.ok ended (.done m)

end PuzzleWorlds
