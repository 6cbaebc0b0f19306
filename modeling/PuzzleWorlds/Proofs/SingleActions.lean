import PuzzleWorlds.Proofs.ExactBudgets

/-! One action or none. A command checks all of its arguments before it acts, so a call that is
refused leaves no mark, a query never leaves one, and any other call adds one action to the trace.
Expressions call the registry for their queries alone: with all that their calls do kept, they
still leave the machine as they found it. -/

namespace PuzzleWorlds

variable {d : Domain}

namespace Domain

/-- A command that is no query acts. -/
theorem call_effect {s : d.Shadow} {c : d.Command} {a : Arguments} {x : Response d.Shadow}
    (effect : (commandSpec c).query = false) (h : call s c a = .ok x) :
    ∃ shadow action, x = .acts shadow action := by
  cases d with
  | robot =>
    cases c with
    | collectStar | moveForward | turnLeft | turnRight => exact ⟨_, _, (Except.ok.inj h).symm⟩
    | wait =>
      obtain ⟨action, _, h⟩ := map_eq_ok.mp h
      exact ⟨_, _, h.symm⟩
  | building =>
    cases c with
    | goto =>
      obtain ⟨x, _, h⟩ := bind_eq_ok.mp h
      obtain ⟨y, _, h⟩ := bind_eq_ok.mp h
      obtain ⟨z, _, h⟩ := bind_eq_ok.mp h
      exact ⟨_, _, (Except.ok.inj h).symm⟩
    | moveX | moveY | moveZ | setColor =>
      obtain ⟨v, _, h⟩ := bind_eq_ok.mp h
      exact ⟨_, _, (Except.ok.inj h).symm⟩
    | placeBlock | removeBlock => exact ⟨_, _, (Except.ok.inj h).symm⟩
  | sorting =>
    cases c with
    | get | length | view => cases effect
    | swap =>
      obtain ⟨i, _, h⟩ := bind_eq_ok.mp h
      obtain ⟨j, _, h⟩ := bind_eq_ok.mp h
      exact ⟨_, _, (Except.ok.inj h).symm⟩
  | combat =>
    cases c with
    | distanceTo | getHp | getPosition | inRange => cases effect
    | attack =>
      obtain ⟨v, _, h⟩ := bind_eq_ok.mp h
      obtain ⟨e, _, h⟩ := bind_eq_ok.mp h
      exact ⟨_, _, (Except.ok.inj h).symm⟩
    | selectTarget =>
      obtain ⟨e, _, h⟩ := bind_eq_ok.mp h
      exact ⟨_, _, (Except.ok.inj h).symm⟩
  | music =>
    cases c with
    | playNote =>
      obtain ⟨note, _, h⟩ := bind_eq_ok.mp h
      exact ⟨_, _, (Except.ok.inj h).symm⟩
    | rest =>
      obtain ⟨beats, _, h⟩ := bind_eq_ok.mp h
      dsimp only at h
      split at h
      next => cases h
      next => exact ⟨_, _, (Except.ok.inj h).symm⟩
  | sprite =>
    cases c with
    | jump => exact ⟨_, _, (Except.ok.inj h).symm⟩
    | moveDown | moveLeft | moveRight | moveUp | rotate | say | wait =>
      obtain ⟨v, _, h⟩ := bind_eq_ok.mp h
      exact ⟨_, _, (Except.ok.inj h).symm⟩
    | scale =>
      obtain ⟨percent, _, h⟩ := bind_eq_ok.mp h
      dsimp only at h
      split at h
      next => cases h
      next => exact ⟨_, _, (Except.ok.inj h).symm⟩
  | pixel =>
    cases c with
    | draw | moveDown | moveRight => exact ⟨_, _, (Except.ok.inj h).symm⟩
    | setColor =>
      obtain ⟨color, _, h⟩ := bind_eq_ok.mp h
      exact ⟨_, _, (Except.ok.inj h).symm⟩
  | math =>
    cases c with
    | printValue =>
      obtain ⟨text, _, h⟩ := bind_eq_ok.mp h
      exact ⟨_, _, (Except.ok.inj h).symm⟩

/-- Whether a name, canonical or not, is that of a command that acts. -/
def isEffect (d : Domain) (name : String) : Bool :=
  match d.command? name with
  | some c => !(commandSpec c).query
  | none => false

end Domain

namespace Registry

/-- What a call may do to the registry that it leaves behind. -/
structure OneOrNone (r : Registry d) (c : Invocation) (x : Except Fault Value) (r' : Registry d) :
    Prop where
  acts : ∀ v, x = .ok v → d.isEffect c.name = true → ∃ a, r'.trace = r.trace ++ [a]
  asks : ∀ v, x = .ok v → d.isQuery c.name = true → r' = r
  known : ∀ v, x = .ok v → (d.isEffect c.name || d.isQuery c.name) = true
  refused : ∀ f, x = .error f → f.kind ≠ .budgetExceeded → r' = r
  exhausted : ∀ f, x = .error f → r'.trace = r.trace

/-- The kind of a response tells the kind of the command. -/
theorem respond_kind {r : Registry d} {name : String} {args : List Value}
    {x : Response d.Shadow} (h : r.respond name args = .ok x) :
    (d.isEffect name = true ∧ d.isQuery name = false ∧ ∃ shadow a, x = .acts shadow a) ∨
      (d.isEffect name = false ∧ d.isQuery name = true ∧ ∃ v, x = .answers v) := by
  obtain ⟨c, a, known, _, called⟩ := respond_ok_iff.mp h
  unfold Domain.isEffect Domain.isQuery
  rw [known]
  dsimp only
  cases kind : (Domain.commandSpec c).query with
  | false => exact .inl ⟨rfl, rfl, Domain.call_effect kind called⟩
  | true => exact .inr ⟨rfl, rfl, Domain.call_query kind called⟩

theorem oneOrNone_invoke (r : Registry d) (c : Invocation) :
    r.OneOrNone c (r.invoke c.name c.args).1 (r.invoke c.name c.args).2 := by
  have move := r.invokes c
  generalize (r.invoke c.name c.args).1 = x, (r.invoke c.name c.args).2 = r' at move
  cases move with
  | refuses => exact ⟨nofun, nofun, nofun, fun _ _ _ => rfl, fun _ _ => rfl⟩
  | answers response =>
    obtain ⟨_, _, _, _, ⟨⟩⟩ | ⟨effect, query, _⟩ := respond_kind response
    refine ⟨fun _ _ acts => ?_, fun _ _ _ => rfl, fun _ _ => ?_, nofun, nofun⟩
    · exact absurd (effect.symm.trans acts) Bool.false_ne_true
    · rw [query, Bool.or_true]
  | @acts shadow a response =>
    obtain ⟨effect, query, _⟩ | ⟨_, _, _, ⟨⟩⟩ := respond_kind response
    refine ⟨fun _ _ _ => ⟨a, rfl⟩, fun _ _ asks => ?_, fun _ _ => ?_, nofun, nofun⟩
    · exact absurd (query.symm.trans asks) Bool.false_ne_true
    · rw [effect, Bool.true_or]
  | exhausts =>
    refine ⟨nofun, nofun, nofun, fun f same other => ?_, fun _ _ => rfl⟩
    cases same
    exact absurd rfl other

end Registry

/-- Calls a command for its value, and keeps what the call makes of the registry. -/
def Exec.ask (name : String) (args : List Value) : Exec d Value := do
  let m ← get
  let (result, registry) := m.registry.invoke name args
  set { m with registry }
  lift result

theorem Exec.run_ask (name : String) (args : List Value) (m : Machine d) :
    (ask name args).run m = ((m.registry.invoke name args).1,
      { m with registry := (m.registry.invoke name args).2 }) := rfl

/-- Of two computations in a row that leave the machine as it is, the second starts where the first
did. -/
theorem Exec.run_bind_same {x : Exec d α} {f : α → Exec d β} {m : Machine d} {y : Except Fault α}
    {g : α → Except Fault β} (first : x.run m = (y, m)) (second : ∀ a, (f a).run m = (g a, m)) :
    (x >>= f).run m = (y >>= g, m) := by
  rw [run_bind, first]
  cases y with
  | error e => rfl
  | ok a => exact second a

/-- A query leaves the machine as it is, also when it fails. -/
theorem Exec.run_ask_query {name : String} (query : d.isQuery name = true) (args : List Value)
    (m : Machine d) : (ask name args).run m = ((m.registry.invoke name args).1, m) := by
  have same : (m.registry.invoke name args).2 = m.registry := by
    have move := m.registry.invokes ⟨name, args⟩
    dsimp only at move
    generalize (m.registry.invoke name args).1 = x, (m.registry.invoke name args).2 = r at move
    cases move with
    | refuses | answers => rfl
    | acts response | exhausts response =>
      obtain ⟨_, other, _⟩ | ⟨_, _, _, ⟨⟩⟩ := Registry.respond_kind response
      exact absurd (other.symm.trans query) Bool.false_ne_true
  rw [run_ask, same]

namespace Expr

mutual

/-- Evaluates an expression in the midst of a run: each part meets the machine as the parts before
it have left it, and a query calls the registry of the run. -/
def perform : Expr → Exec d Value
  | literal v => pure v
  | var name => Exec.evaluate (.var name)
  | binary op a b =>
    match Operator.ofSymbol? op with
    | none => throw (.unknownOperator op)
    | some o => do
      let x ← perform a
      let y ← perform b
      Exec.lift (Value.compute o x y)
  | compare op a b =>
    match Value.Comparison.ofSymbol? op with
    | none => throw (.unknownComparison op)
    | some c => do
      let x ← perform a
      let y ← perform b
      Exec.lift (Value.contrast c x y)
  | logic op a b => do
    let left := (← perform a).truthy
    if (op == "and") != left then return .bool left
    return .bool (← perform b).truthy
  | not a => do return .bool !(← perform a).truthy
  | query name args =>
    if d.isQuery name then do Exec.ask name (← performAll args) else throw (.notAQuery name)
  | field target name => do
    let v ← perform target
    match v.get? name with
    | some x => return x
    | none => throw (.noField v name)
  | unknown kind => throw (.notEvaluable kind)

def performAll : List Expr → Exec d (List Value)
  | [] => pure []
  | e :: rest => do
    let v ← perform e
    let vs ← performAll rest
    return v :: vs

end

mutual

/-- Keeping what the calls of an expression do to the registry makes no difference to its value, nor
to any part of the machine. -/
theorem run_perform : (e : Expr) → (m : Machine d) →
    (perform e).run m = (e.evaluate m.registry m.vars, m)
  | literal v, m => by
    rw [perform, evaluate]
    rfl
  | var name, m => by
    rw [perform]
    rfl
  | binary op a b, m => by
    rw [perform, evaluate]
    cases Operator.ofSymbol? op with
    | none => rfl
    | some o =>
      exact Exec.run_bind_same (run_perform a m) fun x =>
        Exec.run_bind_same (run_perform b m) fun y => rfl
  | compare op a b, m => by
    rw [perform, evaluate]
    cases Value.Comparison.ofSymbol? op with
    | none => rfl
    | some c =>
      exact Exec.run_bind_same (run_perform a m) fun x =>
        Exec.run_bind_same (run_perform b m) fun y => rfl
  | logic op a b, m => by
    rw [perform, evaluate]
    refine Exec.run_bind_same (run_perform a m) fun x => ?_
    dsimp only
    split
    next => rfl
    next => exact Exec.run_bind_same (run_perform b m) fun y => rfl
  | not a, m => by
    rw [perform, evaluate]
    exact Exec.run_bind_same (run_perform a m) fun x => rfl
  | query name args, m => by
    rw [perform, evaluate]
    cases asks : d.isQuery name with
    | false => rfl
    | true =>
      exact Exec.run_bind_same (run_performAll args m) fun vs => Exec.run_ask_query asks vs m
  | field target name, m => by
    rw [perform, evaluate]
    refine Exec.run_bind_same (run_perform target m) fun v => ?_
    cases v.get? name with
    | none => rfl
    | some x => rfl
  | unknown kind, m => by
    rw [perform, evaluate]
    rfl

theorem run_performAll : (es : List Expr) → (m : Machine d) →
    (performAll es).run m = (evaluateAll m.registry m.vars es, m)
  | [], m => by
    rw [performAll, evaluateAll]
    rfl
  | e :: rest, m => by
    rw [performAll, evaluateAll]
    exact Exec.run_bind_same (run_perform e m) fun v =>
      Exec.run_bind_same (run_performAll rest m) fun vs => rfl

end

end Expr

/-- Every call that returns adds one action to the trace if its command acts, and leaves the
registry as it is if its command is a query; so does every call that is refused for another reason
than its budget. An expression leaves its whole machine as it is, with a value or without one. -/
theorem one_action_or_none (r : Registry d) (c : Invocation) :
    r.OneOrNone c (r.invoke c.name c.args).1 (r.invoke c.name c.args).2 ∧
      ∀ (e : Expr) (m : Machine d), e.perform.run m = (e.evaluate m.registry m.vars, m) :=
  ⟨r.oneOrNone_invoke c, Expr.run_perform⟩

end PuzzleWorlds
