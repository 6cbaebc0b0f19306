import PuzzleWorlds.Proofs.CountingLoops

/-! What programs do when they are allowed enough steps. Charges decide whether a program goes on,
and not what it does: it reads its variables and the registry, and neither what was charged before
nor the block that it is at. So a run in which no charge is refused is the same run, from any
machine with these variables and this registry, under all limits with as many steps left; and what
such a run comes to can be put together from what its tasks come to. -/

namespace PuzzleWorlds

variable {d : Domain}

/-- The machines are the same to a program. -/
structure Machine.Alike (m m' : Machine d) : Prop where
  vars : m'.vars = m.vars
  registry : m'.registry = m.registry

namespace Machine.Alike

theorem refl (m : Machine d) : m.Alike m := ⟨rfl, rfl⟩

theorem symm {m m' : Machine d} (h : m.Alike m') : m'.Alike m := ⟨h.vars.symm, h.registry.symm⟩

theorem trans {m m' m'' : Machine d} (first : m.Alike m') (second : m'.Alike m'') : m.Alike m'' :=
  ⟨second.vars.trans first.vars, second.registry.trans first.registry⟩

end Machine.Alike

namespace Exec

/-- How what code does under one budget and what its counterpart does under another, from a machine
that is alike, go together: where both budgets are enough, they do the same. -/
structure Echo (b b' : Int) (m m' : Machine d) (own other : Except Fault α × Machine d) :
    Prop where
  forward : m.steps ≤ own.2.steps
  same : own.2.steps ≤ b.toNat → m'.steps + own.2.steps ≤ b'.toNat + m.steps →
    ∃ n, other = (own.1, n) ∧ own.2.Alike n ∧ n.steps + m.steps = m'.steps + own.2.steps

/-- Code and its counterpart under another budget. -/
def Echoes (b b' : Int) (x y : Exec d α) : Prop :=
  ∀ m m', m.Alike m' → Echo b b' m m' (x.run m) (y.run m')

namespace Echoes

variable {b b' : Int}

theorem bind {x y : Exec d α} {f g : α → Exec d β} (first : Echoes b b' x y)
    (second : ∀ a, Echoes b b' (f a) (g a)) : Echoes b b' (x >>= f) (y >>= g) := by
  intro m m' alike
  have here := first m m' alike
  rw [run_bind, run_bind]
  generalize x.run m = own at here ⊢
  generalize y.run m' = other at here ⊢
  match own with
  | (.error e, m₁) =>
    refine ⟨here.forward, fun granted enough => ?_⟩
    obtain ⟨n, rfl, still, spent⟩ := here.same granted enough
    exact ⟨n, rfl, still, spent⟩
  | (.ok a, m₁) =>
    have forward : m.steps ≤ m₁.steps := here.forward
    have onward := (second a _ _ (.refl m₁)).forward
    refine ⟨forward.trans onward, fun granted enough => ?_⟩
    replace enough : m'.steps + ((f a).run m₁).2.steps ≤ b'.toNat + m.steps := enough
    have enough' : m'.steps + m₁.steps ≤ b'.toNat + m.steps := by omega
    obtain ⟨n, rfl, still, spent⟩ := here.same (onward.trans granted) enough'
    replace spent : n.steps + m.steps = m'.steps + m₁.steps := spent
    obtain ⟨n', done, still', spent'⟩ := (second a m₁ n still).same granted (by omega)
    refine ⟨n', done, still', ?_⟩
    change n'.steps + m.steps = m'.steps + ((f a).run m₁).2.steps
    omega

/-- Code without a charge is its own counterpart, if it tells apart neither what was charged nor the
block. -/
theorem of_quiet {x : Exec d α} (h : ∀ r vs s s' i i', ∃ y r' vs' j j',
    x.run ⟨r, vs, s, i⟩ = (y, ⟨r', vs', s, j⟩) ∧ x.run ⟨r, vs, s', i'⟩ = (y, ⟨r', vs', s', j'⟩)) :
    Echoes b b' x x := by
  rintro ⟨_, _, s, i⟩ ⟨r, vs, s', i'⟩ ⟨rfl, rfl⟩
  obtain ⟨y, r', vs', j, j', own, other⟩ := h r vs s s' i i'
  rw [own, other]
  exact ⟨Nat.le_refl _, fun _ _ => ⟨_, rfl, ⟨rfl, rfl⟩, rfl⟩⟩

theorem pure (a : α) : Echoes b b' (Pure.pure a : Exec d α) (Pure.pure a) :=
  of_quiet fun _ _ _ _ _ _ => ⟨_, _, _, _, _, rfl, rfl⟩

theorem throw (f : Fault) : Echoes b b' (MonadExcept.throw f : Exec d α) (MonadExcept.throw f) :=
  of_quiet fun _ _ _ _ _ _ => ⟨_, _, _, _, _, rfl, rfl⟩

theorem lift (x : Except Fault α) : Echoes b b' (Exec.lift x : Exec d α) (Exec.lift x) :=
  of_quiet fun _ _ _ _ _ _ => ⟨_, _, _, _, _, rfl, rfl⟩

theorem evaluate (e : Expr) : Echoes b b' (Exec.evaluate e : Exec d Value) (Exec.evaluate e) :=
  of_quiet fun _ _ _ _ _ _ => ⟨_, _, _, _, _, rfl, rfl⟩

theorem evaluateAll (es : List Expr) :
    Echoes b b' (Exec.evaluateAll es : Exec d (List Value)) (Exec.evaluateAll es) :=
  of_quiet fun _ _ _ _ _ _ => ⟨_, _, _, _, _, rfl, rfl⟩

theorem collection (name : String) :
    Echoes b b' (get >>= fun m => Exec.lift (m.registry.collection name) : Exec d (List Value))
      (get >>= fun m => Exec.lift (m.registry.collection name)) :=
  of_quiet fun _ _ _ _ _ _ => ⟨_, _, _, _, _, rfl, rfl⟩

theorem atBlock (id : Value) : Echoes b b' (Exec.atBlock id : Exec d Unit) (Exec.atBlock id) :=
  of_quiet fun _ _ _ _ _ _ => ⟨_, _, _, _, _, run_atBlock id _, run_atBlock id _⟩

theorem invoke (name : String) (args : List Value) :
    Echoes b b' (Exec.invoke name args : Exec d Unit) (Exec.invoke name args) :=
  of_quiet fun _ _ _ _ _ _ => ⟨_, _, _, _, _, run_invoke name args _, run_invoke name args _⟩

theorem assign (name v : Value) :
    Echoes b b' (Exec.assign name v : Exec d Unit) (Exec.assign name v) := by
  unfold Exec.assign
  split
  next => exact throw _
  next => exact of_quiet fun _ _ _ _ _ _ => ⟨_, _, _, _, _, rfl, rfl⟩

theorem ordered (c : Value.Comparison) (u v : Value) :
    Echoes b b' (Exec.ordered c u v : Exec d Bool) (Exec.ordered c u v) := by
  unfold Exec.ordered
  split
  next => exact pure _
  next => exact throw _

theorem sum (u v : Value) : Echoes b b' (Exec.sum u v : Exec d Value) (Exec.sum u v) := by
  unfold Exec.sum
  split
  next => exact pure _
  next => exact throw _

theorem goesOn (stop step value : Value) :
    Echoes b b' (Exec.goesOn stop step value : Exec d Bool) (Exec.goesOn stop step value) :=
  (ordered _ _ _).bind fun _ => ordered _ _ _

theorem stepOf (e : Option Expr) :
    Echoes b b' (Exec.stepOf e : Exec d Value) (Exec.stepOf e) := by
  cases e with
  | none => exact pure 1
  | some e => exact (evaluate e).bind fun _ => (lift _).bind fun _ => pure _

theorem countRange (start stop : Expr) (step : Option Expr) :
    Echoes b b' (Exec.countRange start stop step : Exec d (Value × Value × Value))
      (Exec.countRange start stop step) := by
  refine (evaluate _).bind fun _ => (lift _).bind fun _ => (evaluate _).bind fun _ =>
    (lift _).bind fun _ => (stepOf _).bind fun size => ?_
  split
  next => exact (throw _).bind fun _ => (ordered _ _ _).bind fun _ => pure _
  next => exact (ordered _ _ _).bind fun _ => pure _

section

variable {l l' : Limits} (timely : ∀ n, ¬l.clock n > l.deadline)
  (timely' : ∀ n, ¬l'.clock n > l'.deadline)

include timely timely'

theorem tick : Echoes l.stepBudget l'.stepBudget (Exec.tick l : Exec d Unit) (Exec.tick l') := by
  intro m m' alike
  rw [run_tick, run_tick]
  simp only [timely, timely', if_false]
  refine ⟨Nat.le_succ _, fun granted enough => ?_⟩
  replace granted : m.steps + 1 ≤ l.stepBudget.toNat := granted
  replace enough : m'.steps + (m.steps + 1) ≤ l'.stepBudget.toNat + m.steps := enough
  have own : ¬((m.steps + 1 : Nat) : Int) > l.stepBudget := by omega
  have other : ¬((m'.steps + 1 : Nat) : Int) > l'.stepBudget := by omega
  simp only [own, other, if_false]
  exact ⟨_, rfl, ⟨alike.vars, alike.registry⟩, by dsimp only; omega⟩

theorem enter {id : Value} {f g : Unit → Exec d α}
    (h : ∀ u, Echoes l.stepBudget l'.stepBudget (f u) (g u)) :
    Echoes l.stepBudget l'.stepBudget (Task.enter l id >>= f) (Task.enter l' id >>= g) :=
  ((tick timely timely').bind fun _ => atBlock id).bind h

/-- Taking a task apart does the same wherever its charge is granted. -/
theorem takeApart (t : Task) :
    Echoes l.stepBudget l'.stepBudget (t.takeApart l : Exec d (List Task)) (t.takeApart l') := by
  cases t with
  | stmt s =>
    cases s with
    | call name args id =>
      exact enter timely timely' fun _ => (evaluateAll args).bind fun vs =>
        (invoke name vs).bind fun _ => pure []
    | loop times body id =>
      exact enter timely timely' fun _ => (evaluate times).bind fun _ => (lift _).bind fun _ =>
        pure _
    | count var start stop step body id =>
      exact enter timely timely' fun _ => (countRange _ _ _).bind fun _ => pure _
    | each var collected body id =>
      exact enter timely timely' fun _ => (collection collected).bind fun _ => pure _
    | branch condition body otherwise id =>
      exact enter timely timely' fun _ => (evaluate condition).bind fun _ => pure _
    | assign name value id =>
      exact enter timely timely' fun _ => (evaluate value).bind fun v =>
        (assign name v).bind fun _ => pure []
    | unknown kind => exact (tick timely timely').bind fun _ => throw _
  | turns n body =>
    cases n with
    | zero => exact pure []
    | succ n => exact (tick timely timely').bind fun _ => pure _
  | each var items body =>
    cases items with
    | nil => exact pure []
    | cons item rest =>
      exact (tick timely timely').bind fun _ => (assign var item).bind fun _ => pure _
  | count var stop step value body =>
    refine (Echoes.bind ((goesOn stop step value).bind fun go => ?_)) fun go => ?_
    · cases go with
      | true => exact (tick timely timely').bind fun _ => (assign var value).bind fun _ => pure true
      | false => exact pure false
    · cases go with
      | true => exact pure _
      | false => exact pure _
  | moveOn var stop step value body => exact (sum value step).bind fun _ => pure _

end

end Echoes

end Exec

/-- A run in which no charge is refused goes on alike wherever as many steps are left. -/
theorem Runs.echo {l l' : Limits} {ts : List Task} {m m' n : Machine d} {x : Except Fault Unit}
    (ran : Runs l ts m x n) (timely : ∀ k, ¬l.clock k > l.deadline)
    (timely' : ∀ k, ¬l'.clock k > l'.deadline) (granted : n.steps ≤ l.stepBudget.toNat)
    (alike : m.Alike m') (enough : m'.steps + n.steps ≤ l'.stepBudget.toNat + m.steps) :
    ∃ n', Runs l' ts m' x n' ∧ n.Alike n' ∧ n'.steps + m.steps = m'.steps + n.steps := by
  -- What was charged never shrinks, so what is granted at the end was granted on the way.
  induction ran generalizing m' with
  | done m => exact ⟨m', .done m', alike, rfl⟩
  | @fails t ts m n f failed =>
    have step := Exec.Echoes.takeApart timely timely' t m m' alike
    rw [failed] at step
    obtain ⟨n', failed', alike', spent⟩ := step.same granted enough
    exact ⟨n', .fails failed', alike', spent⟩
  | @goesOn t ts parts m m₁ n x taken rest ih =>
    have step := Exec.Echoes.takeApart timely timely' t m m' alike
    rw [taken] at step
    have onward : m₁.steps ≤ n.steps := rest.spends.forward
    have enough' : m'.steps + m₁.steps ≤ l'.stepBudget.toNat + m.steps := by omega
    obtain ⟨m₁', taken', alike', spent⟩ := step.same (onward.trans granted) enough'
    replace spent : m₁'.steps + m.steps = m'.steps + m₁.steps := spent
    obtain ⟨n', rest', alike'', spent'⟩ := ih granted alike' (by omega)
    exact ⟨n', .goesOn taken' rest', alike'', by omega⟩

namespace Runs

variable {l : Limits} {ts : List Task} {m n : Machine d}

theorem append_error {f : Fault} (failed : Runs l ts m (.error f) n) (us : List Task) :
    Runs l (ts ++ us) m (.error f) n := by
  generalize result : (.error f : Except Fault Unit) = x at failed
  induction failed with
  | done => cases result
  | fails failed =>
    cases result
    exact .fails failed
  | @goesOn t ts parts _ _ _ _ taken _ ih =>
    exact .goesOn taken (List.append_assoc parts ts us ▸ ih result)

theorem append_ok {us : List Task} {m' : Machine d} {x : Except Fault Unit}
    (done : Runs l ts m (.ok ()) m') (after : Runs l us m' x n) : Runs l (ts ++ us) m x n := by
  generalize result : (.ok () : Except Fault Unit) = y at done
  induction done with
  | done => exact after
  | fails => cases result
  | @goesOn t ts parts _ _ _ _ taken _ ih =>
    exact .goesOn taken (List.append_assoc parts ts us ▸ ih after result)

end Runs

/-- A run of tasks, and then of others after them. -/
theorem runs_append {l : Limits} {ts us : List Task} {m n : Machine d} {x : Except Fault Unit} :
    Runs l (ts ++ us) m x n ↔ (∃ f, x = .error f ∧ Runs l ts m (.error f) n) ∨
      ∃ m', Runs l ts m (.ok ()) m' ∧ Runs l us m' x n := by
  constructor
  · intro ran
    generalize whole : ts ++ us = ws at ran
    induction ran generalizing ts with
    | done m =>
      obtain ⟨rfl, rfl⟩ := List.append_eq_nil_iff.mp whole
      exact .inr ⟨m, .done m, .done m⟩
    | @fails t ws m n f failed =>
      cases ts with
      | nil =>
        obtain rfl : us = t :: ws := whole
        exact .inr ⟨m, .done m, .fails failed⟩
      | cons t' ts =>
        cases whole
        exact .inl ⟨f, rfl, .fails failed⟩
    | @goesOn t ws parts m m₁ n x taken rest ih =>
      cases ts with
      | nil =>
        obtain rfl : us = t :: ws := whole
        exact .inr ⟨m, .done m, .goesOn taken rest⟩
      | cons t' ts =>
        cases whole
        obtain ⟨f, rfl, failed⟩ | ⟨m', done, after⟩ := ih (List.append_assoc parts ts us)
        · exact .inl ⟨f, rfl, .goesOn taken failed⟩
        · exact .inr ⟨m', .goesOn taken done, after⟩
  · rintro (⟨f, rfl, failed⟩ | ⟨m', done, after⟩)
    · exact failed.append_error us
    · exact done.append_ok after

/-- There are limits of as many steps as wanted, in which no time passes. -/
theorem Limits.exists_allowing (room : Nat) :
    ∃ l : Limits, (∀ k, ¬l.clock k > l.deadline) ∧ l.stepBudget = room := by
  have early : ¬(0 : Float) > Limits.deadline {} := by decide +kernel
  exact ⟨{ stepBudget := room }, fun _ => early, rfl⟩

/-- From one machine the tasks lead to a result, and to machines like the other, if they are allowed
enough steps. -/
def Does (ts : List Task) (m : Machine d) (x : Except Fault Unit) (n : Machine d) : Prop :=
  ∃ l n', (∀ k, ¬l.clock k > l.deadline) ∧ Runs l ts m x n' ∧ n'.steps ≤ l.stepBudget.toNat ∧
    n.Alike n'

namespace Does

variable {ts us : List Task} {m m' n : Machine d} {x : Except Fault Unit}

/-- So many steps are enough, from whatever machine that is alike. -/
theorem enough (h : Does ts m x n) : ∃ k : Nat, ∀ (l : Limits) (m' : Machine d),
    (∀ k, ¬l.clock k > l.deadline) → m.Alike m' → m'.steps + k ≤ l.stepBudget.toNat →
      ∃ n', Runs l ts m' x n' ∧ n'.steps ≤ l.stepBudget.toNat ∧ n.Alike n' := by
  obtain ⟨l, n₁, timely, ran, granted, same⟩ := h
  refine ⟨n₁.steps, fun l' m' timely' alike room => ?_⟩
  obtain ⟨n', ran', same', spent⟩ := ran.echo timely timely' granted alike (by omega)
  exact ⟨n', ran', by omega, same.trans same'⟩

/-- There are limits that are enough and that allow as many steps more as wanted. -/
theorem roomy (h : Does ts m x n) (alike : m.Alike m') (room : Nat) : ∃ l n',
    (∀ k, ¬l.clock k > l.deadline) ∧ room ≤ l.stepBudget.toNat ∧ Runs l ts m' x n' ∧
      n'.steps ≤ l.stepBudget.toNat ∧ n.Alike n' := by
  obtain ⟨k, enough⟩ := h.enough
  obtain ⟨l, timely, allowed⟩ := Limits.exists_allowing (m'.steps + k + room)
  obtain ⟨n', ran, granted, same⟩ := enough l m' timely alike (by omega)
  exact ⟨l, n', timely, by omega, ran, granted, same⟩

theorem of_alike (h : Does ts m x n) (alike : m.Alike m') : Does ts m' x n := by
  obtain ⟨l, n', timely, _, ran, granted, same⟩ := h.roomy alike 0
  exact ⟨l, n', timely, ran, granted, same⟩

end Does

section

variable {t : Task} {ts us : List Task} {m m₁ n : Machine d} {x : Except Fault Unit}

theorem does_congr (alike : m.Alike m₁) : Does ts m x n ↔ Does ts m₁ x n :=
  ⟨fun h => h.of_alike alike, fun h => h.of_alike alike.symm⟩

/-- A task that is taken apart wherever its charge is granted does what its parts do. -/
theorem does_takeApart {parts : List Task} (taken : ∀ l : Limits,
      (∀ k, ¬l.clock k > l.deadline) → m.steps + 1 ≤ l.stepBudget.toNat →
        (t.takeApart l).run m = (.ok parts, m₁)) :
    Does (t :: ts) m x n ↔ Does (parts ++ ts) m₁ x n := by
  constructor
  · intro does
    obtain ⟨l, n', timely, room, ran, granted, same⟩ := does.roomy (.refl m) (m.steps + 1)
    cases ran with
    | fails failed => cases failed.symm.trans (taken l timely room)
    | goesOn taken' rest =>
      cases taken'.symm.trans (taken l timely room)
      exact ⟨l, n', timely, rest, granted, same⟩
  · intro does
    obtain ⟨l, n', timely, room, ran, granted, same⟩ := does.roomy (.refl m₁) (m.steps + 1)
    exact ⟨l, n', timely, .goesOn (taken l timely room) ran, granted, same⟩

/-- What tasks do, and then others after them. -/
theorem does_append : Does (ts ++ us) m x n ↔ (∃ f, x = .error f ∧ Does ts m (.error f) n) ∨
    ∃ m', Does ts m (.ok ()) m' ∧ Does us m' x n := by
  constructor
  · rintro ⟨l, n', timely, ran, granted, same⟩
    obtain ⟨f, rfl, failed⟩ | ⟨m', done, after⟩ := runs_append.mp ran
    · exact .inl ⟨f, rfl, l, n', timely, failed, granted, same⟩
    · have within : m'.steps ≤ l.stepBudget.toNat := after.spends.forward.trans granted
      exact .inr ⟨m', ⟨l, m', timely, done, within, .refl m'⟩, l, n', timely, after, granted, same⟩
  · rintro (⟨f, rfl, l, n', timely, failed, granted, same⟩ | ⟨m', first, second⟩)
    · exact ⟨l, n', timely, failed.append_error us, granted, same⟩
    · obtain ⟨l, m₂, timely, done, granted, alike⟩ := first
      obtain ⟨k, enough⟩ := second.enough
      obtain ⟨l', timely', allowed⟩ := Limits.exists_allowing (m₂.steps + k)
      obtain ⟨m₃, done', alike', spent⟩ := done.echo timely timely' granted (.refl m) (by omega)
      obtain ⟨n', after, granted', same⟩ :=
        enough l' m₃ timely' (alike.trans alike') (by omega)
      exact ⟨l', n', timely', done'.append_ok after, granted', same⟩

/-- What does the same comes after tasks to the same effect. -/
theorem does_append_congr {vs : List Task} (same : ∀ m', Does us m' x n ↔ Does vs m' x n) :
    Does (ts ++ us) m x n ↔ Does (ts ++ vs) m x n := by
  simp only [does_append, same]

end

/-- What a program can tell of an end: how it came about, the variables and the registry. -/
structure Effect (d : Domain) where
  result : Except Fault Unit
  vars : Variables
  registry : Registry d

def Effect.of (x : Except Fault Unit × Machine d) : Effect d := ⟨x.1, x.2.vars, x.2.registry⟩

/-- From this machine the statements come to this effect whenever they are allowed enough steps, and
their time does not run out. -/
def Comes (body : List Stmt) (m : Machine d) (e : Effect d) : Prop :=
  ∃ n : Nat, ∀ l : Limits, (∀ k, ¬l.clock k > l.deadline) → n ≤ l.stepBudget →
    let x := (Stmt.executeAll l body).run m
    x.2.steps ≤ l.stepBudget ∧ Effect.of x = e

section

variable {body : List Stmt} {m : Machine d} {e : Effect d}

theorem runs_executeAll (l : Limits) (body : List Stmt) (m : Machine d) :
    Runs l (body.map .stmt) m ((Stmt.executeAll l body).run m).1
      ((Stmt.executeAll l body).run m).2 := by
  have performed := Stmt.performsAll l body m
  rw [← List.append_nil (body.map Task.stmt)]
  rcases ended : (Stmt.executeAll l body).run m with ⟨f | u, n⟩
  · exact performed.error ended
  · exact performed.ok ended (.done n)

theorem comes_iff : Comes body m e ↔
    Does (body.map .stmt) m e.result { registry := e.registry, vars := e.vars } := by
  constructor
  · rintro ⟨n, enough⟩
    obtain ⟨l, timely, allowed⟩ := Limits.exists_allowing n
    obtain ⟨granted, rfl⟩ := enough l timely (by omega)
    exact ⟨l, _, timely, runs_executeAll l body m, by omega, rfl, rfl⟩
  · intro does
    obtain ⟨k, enough⟩ := does.enough
    refine ⟨m.steps + k, fun l timely room => ?_⟩
    obtain ⟨n, ran, granted, same⟩ := enough l m timely (.refl m) (by omega)
    obtain ⟨result, ended⟩ := (runs_executeAll l body m).unique ran
    dsimp only
    rw [Effect.of, result, ended, same.vars, same.registry]
    exact ⟨by omega, rfl⟩

/-- A statement that does what others do comes to what they come to. -/
theorem comes_congr {s : Stmt}
    (same : ∀ {x n}, Does [.stmt s] m x n ↔ Does (body.map .stmt ++ []) m x n) :
    Comes [s] m e ↔ Comes body m e := by
  rw [comes_iff, comes_iff, ← List.append_nil (body.map Task.stmt)]
  exact same

/-- A run within its limits tells what the statements come to. -/
theorem comes_of_run {l : Limits} (timely : ∀ k, ¬l.clock k > l.deadline)
    (granted : ((Stmt.executeAll l body).run m).2.steps ≤ l.stepBudget.toNat) :
    Comes body m (.of ((Stmt.executeAll l body).run m)) :=
  comes_iff.mpr ⟨l, _, timely, runs_executeAll l body m, granted, rfl, rfl⟩

/-- Statements come to one effect only. -/
theorem Comes.unique {e' : Effect d} (h : Comes body m e) (h' : Comes body m e') : e = e' := by
  obtain ⟨n, enough⟩ := h
  obtain ⟨n', enough'⟩ := h'
  obtain ⟨l, timely, allowed⟩ := Limits.exists_allowing (n + n')
  rw [← (enough l timely (by omega)).2, (enough' l timely (by omega)).2]

end

end PuzzleWorlds
