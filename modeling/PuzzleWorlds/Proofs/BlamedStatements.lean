import PuzzleWorlds.Proofs.CountingLoops
import PuzzleWorlds.Proofs.EnoughSteps
import PuzzleWorlds.Proofs.ProgramMoves
import PuzzleWorlds.Proofs.ReportedRuns

/-! The statement that a runtime error is blamed on. A run that ends with such an error makes the
moves of its program up to the statement that breaks. The report names the block of this very
statement, though the machine only keeps the block that it entered last, and holds the actions of
the moves up to there. -/

namespace PuzzleWorlds

variable {d : Domain}

namespace Fault

/-- The fault is reported as a runtime error. -/
def Reported (f : Fault) : Prop := f.isOwn = true ∧ f.kind ≠ .budgetExceeded

theorem Reported.elim {f : Fault} {p : Prop} (h : f.Reported) (other : f.isOwn = false) : p :=
  absurd h.1 (Bool.eq_false_iff.mp other)

end Fault

namespace Exec

variable {l : Limits} {m n : Machine d}

theorem run_bind_eq_ok {x : Exec d α} {f : α → Exec d β} {b : β}
    (h : (x >>= f).run m = (.ok b, n)) :
    ∃ a m₁, x.run m = (.ok a, m₁) ∧ (f a).run m₁ = (.ok b, n) := by
  rw [run_bind] at h
  split at h
  next a m₁ first => exact ⟨a, m₁, first, h⟩
  next => cases (Prod.mk.inj h).1

theorem run_bind_eq_error {x : Exec d α} {f : α → Exec d β} {e : Fault}
    (h : (x >>= f).run m = (.error e, n)) :
    x.run m = (.error e, n) ∨ ∃ a m₁, x.run m = (.ok a, m₁) ∧ (f a).run m₁ = (.error e, n) := by
  rw [run_bind] at h
  split at h
  next a m₁ first => exact .inr ⟨a, m₁, first, h⟩
  next e' m₁ first =>
    cases h
    exact .inl first

/-- What leaves the machine as it is hands on its value. -/
theorem run_still_ok {x : Exec d α} {y : Except Fault α} {f : α → Exec d β} {b : β}
    (still : x.run m = (y, m)) (h : (x >>= f).run m = (.ok b, n)) :
    ∃ a, y = .ok a ∧ (f a).run m = (.ok b, n) := by
  obtain ⟨a, m₁, first, rest⟩ := run_bind_eq_ok h
  cases still.symm.trans first
  exact ⟨a, rfl, rest⟩

theorem run_still_error {x : Exec d α} {y : Except Fault α} {f : α → Exec d β} {e : Fault}
    (still : x.run m = (y, m)) (h : (x >>= f).run m = (.error e, n)) :
    (y = .error e ∧ n = m) ∨ ∃ a, y = .ok a ∧ (f a).run m = (.error e, n) := by
  obtain first | ⟨a, m₁, first, rest⟩ := run_bind_eq_error h
  · cases still.symm.trans first
    exact .inl ⟨rfl, rfl⟩
  · cases still.symm.trans first
    exact .inr ⟨a, rfl, rest⟩

theorem run_evaluate (e : Expr) (m : Machine d) :
    (evaluate e).run m = (m.scene.value e, m) := rfl

theorem run_evaluateAll (es : List Expr) (m : Machine d) :
    (evaluateAll es).run m = (m.scene.values es, m) := rfl

theorem run_collection (name : String) (m : Machine d) :
    (get >>= fun m => lift (m.registry.collection name) : Exec d (List Value)).run m =
      (m.scene.registry.collection name, m) := rfl

/-- A number is evaluated and checked where the machine stands. -/
theorem run_checked (check : Value → Except Fault α) (e : Expr) (m : Machine d) :
    (evaluate e >>= fun v => lift (check v)).run m = (m.scene.value e >>= check, m) :=
  run_bind_same (run_evaluate e m) fun _ => rfl

theorem run_checked_ok {check : Value → Except Fault α} {e : Expr} {f : α → Exec d β} {b : β}
    (h : (evaluate e >>= fun v => lift (check v) >>= f).run m = (.ok b, n)) :
    ∃ a, m.scene.value e >>= check = .ok a ∧ (f a).run m = (.ok b, n) := by
  rw [← bind_assoc] at h
  exact run_still_ok (run_checked check e m) h

theorem run_checked_error {check : Value → Except Fault α} {e : Expr} {f : α → Exec d β}
    {g : Fault} (h : (evaluate e >>= fun v => lift (check v) >>= f).run m = (.error g, n)) :
    (m.scene.value e >>= check = .error g ∧ n = m) ∨
      ∃ a, m.scene.value e >>= check = .ok a ∧ (f a).run m = (.error g, n) := by
  rw [← bind_assoc] at h
  exact run_still_error (run_checked check e m) h

theorem run_tick_error {f : Fault} (h : (tick l).run m = (.error f, n)) :
    f.kind = .budgetExceeded := by
  rw [run_tick] at h
  obtain ⟨refused, -⟩ := Prod.mk.inj h
  split at refused
  next =>
    cases refused
    rfl
  next =>
    split at refused
    next =>
      cases refused
      rfl
    next => cases refused

/-- What comes after a charge goes on from the machine that was charged. -/
theorem run_tick_bind_ok {f : Unit → Exec d α} {a : α}
    (h : (tick l >>= f).run m = (.ok a, n)) :
    (f ()).run { m with steps := m.steps + 1 } = (.ok a, n) := by
  obtain ⟨_, m₁, charged, rest⟩ := run_bind_eq_ok h
  obtain ⟨rfl, -⟩ := run_tick_ok charged
  exact rest

/-- No fault that is reported comes from a charge. -/
theorem run_tick_bind_error {f : Unit → Exec d α} {e : Fault} (reported : e.Reported)
    (h : (tick l >>= f).run m = (.error e, n)) :
    (f ()).run { m with steps := m.steps + 1 } = (.error e, n) := by
  obtain refused | ⟨_, m₁, charged, rest⟩ := run_bind_eq_error h
  · exact absurd (run_tick_error refused) reported.2
  · obtain ⟨rfl, -⟩ := run_tick_ok charged
    exact rest

theorem run_enter_bind (id : Value) (f : Unit → Exec d α) (m : Machine d) :
    (Task.enter l id >>= f).run m =
      (tick l >>= fun _ => atBlock id >>= f).run m := by
  unfold Task.enter
  rw [bind_assoc]

theorem run_enter_bind_ok {id : Value} {f : Unit → Exec d α} {a : α}
    (h : (Task.enter l id >>= f).run m = (.ok a, n)) :
    (f ()).run (m.entered id) = (.ok a, n) := by
  have rest := run_tick_bind_ok ((run_enter_bind id f m).symm.trans h)
  rwa [run_bind_ok (run_atBlock id _)] at rest

theorem run_enter_bind_error {id : Value} {f : Unit → Exec d α} {e : Fault}
    (reported : e.Reported) (h : (Task.enter l id >>= f).run m = (.error e, n)) :
    (f ()).run (m.entered id) = (.error e, n) := by
  have rest := run_tick_bind_error reported ((run_enter_bind id f m).symm.trans h)
  rwa [run_bind_ok (run_atBlock id _)] at rest

theorem run_assign_ok {name v : Value} {u : Unit} (h : (assign name v).run m = (.ok u, n)) :
    n.scene = m.scene.assign name v := by
  unfold assign at h
  split at h
  next => cases h
  next =>
    cases h
    rfl

theorem run_assign_error {name v : Value} {f : Fault}
    (h : (assign name v).run m = (.error f, n)) : f.isOwn = false := by
  unfold assign at h
  split at h
  next =>
    cases h
    rfl
  next => cases h

theorem run_ordered_ok {c : Value.Comparison} {a b : Value} {r : Bool}
    (h : (ordered c a b).run m = (.ok r, n)) : Value.ordered c a b = .ok r ∧ n = m := by
  unfold ordered at h
  split at h
  next r' compared =>
    cases h
    exact ⟨compared, rfl⟩
  next => cases h

theorem run_ordered_error {c : Value.Comparison} {a b : Value} {f : Fault}
    (h : (ordered c a b).run m = (.error f, n)) : f.isOwn = false := by
  unfold ordered at h
  split at h
  next => cases h
  next =>
    cases h
    rfl

theorem run_sum_ok {a b v : Value} (h : (sum a b).run m = (.ok v, n)) :
    Value.operation .add a b = .ok v ∧ n = m := by
  unfold sum at h
  split at h
  next v' added =>
    cases h
    exact ⟨added, rfl⟩
  next => cases h

theorem run_sum_error {a b : Value} {f : Fault} (h : (sum a b).run m = (.error f, n)) :
    f.isOwn = false := by
  unfold sum at h
  split at h
  next => cases h
  next =>
    cases h
    rfl

theorem run_goesOn_ok {stop step value : Value} {inside : Bool}
    (h : (goesOn stop step value).run m = (.ok inside, n)) :
    InLoop stop step value inside ∧ n = m := by
  obtain ⟨up, m₁, first, second⟩ := run_bind_eq_ok h
  obtain ⟨direction, rfl⟩ := run_ordered_ok first
  obtain ⟨compared, rfl⟩ := run_ordered_ok second
  exact ⟨⟨up, direction, compared⟩, rfl⟩

theorem run_goesOn_error {stop step value : Value} {f : Fault}
    (h : (goesOn stop step value).run m = (.error f, n)) : f.isOwn = false := by
  obtain first | ⟨_, _, _, second⟩ := run_bind_eq_error h
  · exact run_ordered_error first
  · exact run_ordered_error second

theorem run_stepOf (step : Option Expr) (m : Machine d) :
    (stepOf step).run m = (m.scene.size step, m) := by
  cases step with
  | none => rfl
  | some e =>
    change (evaluate e >>= fun v => lift (asNumber "loop step" v) >>= fun a =>
      pure a.absolute : Exec d Value).run m =
        ((m.scene.value e >>= asNumber "loop step").map Value.absolute, m)
    rw [run_bind, run_evaluate]
    cases m.scene.value e with
    | error g => rfl
    | ok v =>
      change (lift (asNumber "loop step" v) >>= fun a => pure a.absolute : Exec d Value).run m =
        ((asNumber "loop step" v).map Value.absolute, m)
      cases asNumber "loop step" v with
      | error g => rfl
      | ok a => rfl

variable {start stop : Expr} {step : Option Expr}

/-- The three bounds of a counting loop are found one after the other. -/
theorem run_countRange_ok {a b c : Value}
    (h : (countRange start stop step).run m = (.ok (a, b, c), n)) :
    n = m ∧ m.scene.bound "loop start" start = .ok a ∧ m.scene.bound "loop end" stop = .ok b ∧
      ∃ size down, m.scene.size step = .ok size ∧ Value.same size 0 = false ∧
        Value.ordered .gt a b = .ok down ∧ c = if down then size.negate else size := by
  obtain ⟨a', first, h⟩ := run_checked_ok h
  obtain ⟨b', last, h⟩ := run_checked_ok h
  obtain ⟨size, sized, h⟩ := run_still_ok (run_stepOf step m) h
  split at h
  next => cases h
  next moves =>
    obtain ⟨down, m₁, decided, answered⟩ := run_bind_eq_ok h
    obtain ⟨compared, rfl⟩ := run_ordered_ok decided
    cases answered
    exact ⟨rfl, first, last, size, down, sized, Bool.eq_false_iff.mpr moves, compared, rfl⟩

theorem run_countRange_error {f : Fault} (var id : Value) (body : List Stmt)
    (h : (countRange start stop step).run m = (.error f, n)) (own : f.isOwn = true) :
    n = m ∧ (Stmt.count var start stop step body id).Breaks m.scene f := by
  obtain ⟨first, rfl⟩ | ⟨a, first, h⟩ := run_checked_error h
  · exact ⟨rfl, .start first⟩
  obtain ⟨last, rfl⟩ | ⟨b, last, h⟩ := run_checked_error h
  · exact ⟨rfl, .stop first last⟩
  obtain ⟨sized, rfl⟩ | ⟨size, sized, h⟩ := run_still_error (run_stepOf step m) h
  · exact ⟨rfl, .step first last sized⟩
  split at h
  next still =>
    cases h
    exact ⟨rfl, .still first last sized still⟩
  next =>
    obtain compared | ⟨_, _, _, h⟩ := run_bind_eq_error h
    · rw [run_ordered_error compared] at own
      cases own
    · cases h

end Exec

namespace Task

variable {l : Limits} {m n : Machine d}

/-- A call that goes through acts or asks. -/
theorem step_of_invoke {name : String} {args : List Expr} {id v : Value} {vals : List Value}
    {r : Registry d} (evaluated : m.scene.values args = .ok vals)
    (invoked : m.registry.invoke name vals = (.ok v, r)) :
    ∃ a, Step (.stmt (.call name args id)) m.scene a [] ⟨r, m.vars⟩ := by
  have one := m.registry.oneOrNone_invoke ⟨name, vals⟩
  rw [invoked] at one
  cases kind : d.isEffect name with
  | true =>
    obtain ⟨a, recorded⟩ := one.acts v rfl kind
    exact ⟨[a], .acts evaluated kind invoked recorded⟩
  | false =>
    have known := one.known v rfl
    dsimp only at known
    rw [kind, Bool.false_or] at known
    obtain rfl : r = m.registry := one.asks v rfl known
    exact ⟨[], .asks evaluated known invoked⟩

/-- Taking a statement apart is a move, and the machine knows no more of it than a program can
tell. -/
theorem step_of_statement {s : Stmt} {parts : List Task}
    (h : ((stmt s).takeApart l).run m = (.ok parts, n)) :
    ∃ a, Step (.stmt s) m.scene a parts n.scene := by
  cases s with
  | call name args id =>
    obtain ⟨vals, evaluated, rest⟩ :=
      Exec.run_still_ok (Exec.run_evaluateAll args _) (Exec.run_enter_bind_ok h)
    obtain ⟨_, m₁, called, done⟩ := Exec.run_bind_eq_ok rest
    cases done
    rw [Exec.run_invoke] at called
    obtain ⟨result, rfl⟩ := Prod.mk.inj called
    obtain ⟨v, returned, -⟩ := map_eq_ok.mp result
    exact step_of_invoke evaluated (Prod.ext returned rfl)
  | loop times body id =>
    obtain ⟨k, counted, done⟩ := Exec.run_checked_ok (Exec.run_enter_bind_ok h)
    cases done
    exact ⟨[], .repeats counted⟩
  | count var start stop step body id =>
    obtain ⟨⟨a, b, c⟩, m₁, found, done⟩ := Exec.run_bind_eq_ok (Exec.run_enter_bind_ok h)
    cases done
    obtain ⟨rfl, first, last, size, down, sized, moves, compared, rfl⟩ :=
      Exec.run_countRange_ok found
    exact ⟨[], .counts first last sized moves compared⟩
  | each var collection body id =>
    obtain ⟨items, listed, done⟩ :=
      Exec.run_still_ok (Exec.run_collection collection _) (Exec.run_enter_bind_ok h)
    cases done
    exact ⟨[], .goesThrough listed⟩
  | branch condition body otherwise id =>
    obtain ⟨v, chosen, done⟩ :=
      Exec.run_still_ok (Exec.run_evaluate condition _) (Exec.run_enter_bind_ok h)
    cases done
    exact ⟨[], .chooses chosen⟩
  | assign name value id =>
    obtain ⟨v, evaluated, rest⟩ :=
      Exec.run_still_ok (Exec.run_evaluate value _) (Exec.run_enter_bind_ok h)
    obtain ⟨_, m₁, assigned, done⟩ := Exec.run_bind_eq_ok rest
    cases done
    rw [Exec.run_assign_ok assigned]
    exact ⟨[], .assigns evaluated⟩
  | unknown kind => cases Exec.run_tick_bind_ok h

/-- So is taking apart what is left of a loop. -/
theorem step_of_takeApart {t : Task} {parts : List Task}
    (h : (t.takeApart l).run m = (.ok parts, n)) : ∃ a, Step t m.scene a parts n.scene := by
  cases t with
  | stmt s => exact step_of_statement h
  | turns k body =>
    cases k with
    | zero =>
      cases h
      exact ⟨[], .noTurn⟩
    | succ k =>
      cases Exec.run_tick_bind_ok h
      exact ⟨[], .turn⟩
  | each var items body =>
    cases items with
    | nil =>
      cases h
      exact ⟨[], .noItem⟩
    | cons item items =>
      obtain ⟨_, m₁, assigned, done⟩ := Exec.run_bind_eq_ok (Exec.run_tick_bind_ok h)
      cases done
      rw [Exec.run_assign_ok assigned]
      exact ⟨[], .item⟩
  | count var stop step value body =>
    obtain ⟨entered, m₁, looked, done⟩ := Exec.run_bind_eq_ok h
    obtain ⟨inside, m₂, compared, turned⟩ := Exec.run_bind_eq_ok looked
    obtain ⟨still, rfl⟩ := Exec.run_goesOn_ok compared
    cases inside with
    | false =>
      cases turned
      cases done
      exact ⟨[], .past still⟩
    | true =>
      obtain ⟨_, m₃, assigned, same⟩ := Exec.run_bind_eq_ok (Exec.run_tick_bind_ok turned)
      cases same
      cases done
      rw [Exec.run_assign_ok assigned]
      exact ⟨[], .inside still⟩
  | moveOn var stop step value body =>
    obtain ⟨next, m₁, added, done⟩ := Exec.run_bind_eq_ok h
    cases done
    obtain ⟨sum, rfl⟩ := Exec.run_sum_ok added
    exact ⟨[], .moveOn sum⟩

/-- A call that is refused leaves the machine as it is. -/
theorem refused_of_invoke {name : String} {vals : List Value} {f : Fault} (reported : f.Reported)
    (h : (Exec.invoke name vals).run m = (.error f, n)) :
    (m.registry.invoke name vals).1 = .error f ∧ n = m := by
  rw [Exec.run_invoke] at h
  obtain ⟨result, rfl⟩ := Prod.mk.inj h
  have one := m.registry.oneOrNone_invoke ⟨name, vals⟩
  dsimp only at one
  cases returned : (m.registry.invoke name vals).1 with
  | ok v =>
    rw [returned] at result
    cases result
  | error g =>
    rw [returned] at result
    cases result
    exact ⟨rfl, by rw [one.refused f returned reported.2]⟩

/-- A statement that comes to a fault of its own breaks. -/
theorem breaks_of_statement {s : Stmt} {f : Fault} (reported : f.Reported)
    (h : ((stmt s).takeApart l).run m = (.error f, n)) :
    s.Breaks m.scene f ∧ n.scene = m.scene ∧ n = m.entered s.blockId := by
  cases s with
  | call name args id =>
    obtain ⟨refused, rfl⟩ | ⟨vals, evaluated, rest⟩ :=
      Exec.run_still_error (Exec.run_evaluateAll args _) (Exec.run_enter_bind_error reported h)
    · exact ⟨.argument refused, rfl, rfl⟩
    · obtain called | ⟨_, _, _, done⟩ := Exec.run_bind_eq_error rest
      · obtain ⟨returned, rfl⟩ := refused_of_invoke reported called
        exact ⟨.primitive evaluated returned, rfl, rfl⟩
      · cases done
  | loop times body id =>
    obtain ⟨refused, rfl⟩ | ⟨k, counted, done⟩ :=
      Exec.run_checked_error (Exec.run_enter_bind_error reported h)
    · exact ⟨.times refused, rfl, rfl⟩
    · cases done
  | count var start stop step body id =>
    obtain refused | ⟨_, _, _, done⟩ :=
      Exec.run_bind_eq_error (Exec.run_enter_bind_error reported h)
    · obtain ⟨rfl, broken⟩ := Exec.run_countRange_error var id body refused reported.1
      exact ⟨broken, rfl, rfl⟩
    · cases done
  | each var collection body id =>
    obtain ⟨refused, rfl⟩ | ⟨items, listed, done⟩ :=
      Exec.run_still_error (Exec.run_collection collection _)
        (Exec.run_enter_bind_error reported h)
    · exact ⟨.collection refused, rfl, rfl⟩
    · cases done
  | branch condition body otherwise id =>
    obtain ⟨refused, rfl⟩ | ⟨v, chosen, done⟩ :=
      Exec.run_still_error (Exec.run_evaluate condition _) (Exec.run_enter_bind_error reported h)
    · exact ⟨.condition refused, rfl, rfl⟩
    · cases done
  | assign name value id =>
    obtain ⟨refused, rfl⟩ | ⟨v, evaluated, rest⟩ :=
      Exec.run_still_error (Exec.run_evaluate value _) (Exec.run_enter_bind_error reported h)
    · exact ⟨.value refused, rfl, rfl⟩
    · obtain assigned | ⟨_, _, _, done⟩ := Exec.run_bind_eq_error rest
      · exact reported.elim (Exec.run_assign_error assigned)
      · cases done
  | unknown kind =>
    cases Exec.run_tick_bind_error reported h
    cases reported.1

/-- What is left of a loop comes to no fault of its own. -/
theorem breaks_of_takeApart {t : Task} {f : Fault} (reported : f.Reported)
    (h : (t.takeApart l).run m = (.error f, n)) :
    ∃ s, t = .stmt s ∧ s.Breaks m.scene f ∧ n.scene = m.scene ∧ n = m.entered s.blockId := by
  cases t with
  | stmt s => exact ⟨s, rfl, breaks_of_statement reported h⟩
  | turns k body =>
    cases k with
    | zero => cases h
    | succ k => cases Exec.run_tick_bind_error reported h
  | each var items body =>
    cases items with
    | nil => cases h
    | cons item items =>
      obtain assigned | ⟨_, _, _, done⟩ :=
        Exec.run_bind_eq_error (Exec.run_tick_bind_error reported h)
      · exact reported.elim (Exec.run_assign_error assigned)
      · cases done
  | count var stop step value body =>
    obtain looked | ⟨entered, _, _, done⟩ := Exec.run_bind_eq_error h
    · obtain compared | ⟨inside, _, _, turned⟩ := Exec.run_bind_eq_error looked
      · exact reported.elim (Exec.run_goesOn_error compared)
      · cases inside with
        | false => cases turned
        | true =>
          obtain assigned | ⟨_, _, _, done⟩ :=
            Exec.run_bind_eq_error (Exec.run_tick_bind_error reported turned)
          · exact reported.elim (Exec.run_assign_error assigned)
          · cases done
    · cases entered with
      | false => cases done
      | true => cases done
  | moveOn var stop step value body =>
    obtain added | ⟨_, _, _, done⟩ := Exec.run_bind_eq_error h
    · exact reported.elim (Exec.run_sum_error added)
    · cases done

end Task

theorem Machine.blockId_entered (m : Machine d) {id : Value} (named : id ≠ .null) :
    (m.entered id).blockId = id := by
  cases id with
  | null => exact absurd rfl named
  | _ => rfl

/-- Tasks that come to a fault of their own come to the statement that breaks, and stop there. -/
theorem Runs.arrives {l : Limits} {ts : List Task} {m n : Machine d} {f : Fault}
    (ran : Runs l ts m (.error f) n) (reported : f.Reported) : ∃ a s σ, Arrives ts m.scene a s σ ∧
      s.Breaks σ f ∧ n.scene = σ ∧ (s.blockId ≠ .null → n.blockId = s.blockId) := by
  generalize result : (.error f : Except Fault Unit) = x at ran
  induction ran with
  | done => cases result
  | fails failed =>
    cases result
    obtain ⟨s, rfl, broken, same, rfl⟩ := Task.breaks_of_takeApart reported failed
    exact ⟨[], s, _, .here, broken, same, Machine.blockId_entered _⟩
  | goesOn taken _ ih =>
    obtain ⟨a, step⟩ := Task.step_of_takeApart taken
    obtain ⟨b, s, σ, later, broken, ended⟩ := ih result
    exact ⟨a ++ b, s, σ, .move step later, broken, ended⟩

namespace Program

/-- A report of a runtime error is about a fault that is reported. -/
theorem conclude_runtimeError {e : Except Fault Unit} {m : Machine d} {x : Diagnostic}
    {output : List String} (ended : conclude (e, m) = .ok (.failed x output))
    (kind : x.kind = .runtimeError) : ∃ f, e = .error f ∧ f.Reported ∧ x = report f m := by
  cases e with
  | ok u => cases ended
  | error f =>
    obtain ⟨own, written⟩ := conclude_ok_iff.mp ⟨_, ended⟩ f rfl
    rw [conclude_own own, written] at ended
    cases ended
    refine ⟨f, rfl, ⟨own, fun exhausted => ?_⟩, rfl⟩
    unfold report at kind
    rw [exhausted] at kind
    cases kind

/-- A runtime error names the one statement that the run comes to and that breaks there. Whatever
statements lie around it, before it or after it have other names. The report holds the fault of this
statement and the actions of the calls that went through on the way to it. -/
theorem run_blames {p : Program} {l : Limits} {r : Registry d} {x : Diagnostic}
    {output : List String} (named : ∀ s ∈ Stmt.flattenAll p.statements, s.blockId ≠ .null)
    (apart : ((Stmt.flattenAll p.statements).map Stmt.blockId).Nodup)
    (ended : p.run l r = .ok (.failed x output)) (kind : x.kind = .runtimeError) :
    ∃ s ∈ Stmt.flattenAll p.statements, ∃ actions σ f,
      Arrives (p.statements.map .stmt) ⟨r, []⟩ actions s σ ∧ s.Breaks σ f ∧
      x.location = some { blockId := s.blockId } ∧ x.message = f.message ∧
      x.partialTrace = r.trace ++ actions ∧
      (∀ t ∈ Stmt.flattenAll p.statements, t.blockId = s.blockId → t = s) ∧
      ∀ t b τ g, Arrives (p.statements.map .stmt) ⟨r, []⟩ b t τ → t.Breaks τ g →
        t = s ∧ b = actions := by
  unfold run at ended
  split at ended
  next => cases ended
  next =>
    obtain ⟨f, failed, reported, rfl⟩ := conclude_runtimeError (e := (p.finalMachine l r).1)
      (m := (p.finalMachine l r).2) ended kind
    have ran := p.runs_finalMachine l r
    rw [failed] at ran
    obtain ⟨actions, s, σ, way, broken, same, blamed⟩ := ran.arrives reported
    have member : s ∈ Stmt.flattenAll p.statements := Task.flattenAll_stmt _ ▸ way.mem
    have told : report f (p.finalMachine l r).2 =
        { kind := .runtimeError, message := f.message, location := some { blockId := s.blockId }
          partialTrace := r.trace ++ actions } := by
      have traced : (p.finalMachine l r).2.registry.trace = r.trace ++ actions :=
        (congrArg (fun σ => σ.registry.trace) same).trans way.trace
      rw [report, if_neg (fun exhausted => reported.2 (eq_of_beq exhausted)),
        blamed (named s member), traced]
    rw [told]
    refine ⟨s, member, actions, σ, f, way, broken, rfl, rfl, rfl,
      fun t other alike => List.inj_on_of_nodup_map apart other member alike,
      fun t b τ g way' broken' => ?_⟩
    obtain ⟨rfl, rfl, _⟩ := way.unique broken way' broken'
    exact ⟨rfl, rfl⟩

/-- What kind of failure a run ended with. -/
def failure? : Outcome → Option DiagnosticKind
  | .finished _ _ => none
  | .failed x _ => some x.kind

theorem exists_failed {e : Except ε Outcome} {k : DiagnosticKind}
    (h : e.toOption.bind failure? = some k) :
    ∃ x output, e = .ok (.failed x output) ∧ x.kind = k := by
  cases e with
  | error _ => cases h
  | ok o =>
    cases o with
    | finished _ _ => cases h
    | failed x output => exact ⟨x, output, rfl, Option.some.inj h⟩

/-- The second of two rests is too short, as the first turn of the loop shortens it. -/
theorem run_blames_rest :
    let rest : Stmt := .call "rest" [.var "n"] "rest"
    let less : Stmt := .assign "n" (.binary "-" (.var "n") (.literal 1)) "less"
    let p : Program :=
      ⟨[.assign "n" (.literal 1) "first", .loop (.literal 2) [rest, less] "again"], 4⟩
    let r : Registry .music := { shadow := (), maxActions := 10 }
    ∃ x output, p.run {} r = .ok (.failed x output) ∧ x.kind = .runtimeError ∧
      x.location = some { blockId := "rest" } ∧ x.partialTrace = [.rest 1] := by
  intro rest less p r
  have ran : (p.run {} r).toOption.bind failure? = some .runtimeError := by decide +kernel
  obtain ⟨x, output, ended, kind⟩ := exists_failed ran
  have names : (Stmt.flattenAll p.statements).map Stmt.blockId =
      [.text "first", .text "again", .text "rest", .text "less"] := rfl
  have named : ∀ s ∈ Stmt.flattenAll p.statements, s.blockId ≠ .null := by
    intro s member unnamed
    have known := List.mem_map_of_mem (f := Stmt.blockId) member
    rw [names, unnamed] at known
    simp at known
  obtain ⟨s, _, actions, σ, f, _, _, located, _, traced, _, only⟩ :=
    run_blames named (names ▸ by simp) ended kind
  have way : Arrives (p.statements.map .stmt) (⟨r, []⟩ : Scene .music) [.rest 1] rest
      ⟨{ r with trace := [.rest 1] }, [("n", 0)]⟩ := by
    refine .move (.assigns (v := 1) rfl) ?_
    refine .move (.repeats (n := 2) rfl) (.move (.turn (n := 1)) ?_)
    refine .move (.acts (v := .null) (a := .rest 1) rfl rfl rfl rfl) ?_
    exact .move (.assigns (v := 0) rfl) (.move (.turn (n := 0)) .here)
  obtain ⟨rfl, rfl⟩ := only _ _ _ _ way (.primitive rfl rfl)
  exact ⟨x, output, ended, kind, located, traced⟩

end Program

end PuzzleWorlds
