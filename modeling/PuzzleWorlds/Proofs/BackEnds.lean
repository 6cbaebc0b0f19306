import PuzzleWorlds.Executor.Outcome
import PuzzleWorlds.Proofs.CountingLoops
import PuzzleWorlds.Proofs.PrintedEvents
import PuzzleWorlds.Proofs.ReportedRuns

/-! The two ways of running a program agree. A sequence of calls makes the same calls of the
registry, up to the first one that is refused, whether it is run here or its printed lines come
back from the executor; what stopped it is told in the same words. -/

namespace PuzzleWorlds

variable {d : Domain} {l : Limits}

namespace Event

/-- The statement that makes the call, for a block. -/
def statement (e : Event) (id : Value) : Stmt := .call e.name (e.args.map .literal) id

end Event

theorem Expr.evaluateAll_literals (r : Registry d) (vs : Variables) (args : List Value) :
    Expr.evaluateAll r vs (args.map .literal) = .ok args := by
  induction args with
  | nil => rfl
  | cons v args ih =>
    rw [List.map_cons, Expr.evaluateAll, ih]
    rfl

namespace Exec

variable (timely : ∀ n, ¬l.clock n > l.deadline)

include timely

theorem run_statement (e : Event) (id : Value) {m : Machine d}
    (room : m.steps + 1 ≤ l.stepBudget.toNat) :
    ((e.statement id).execute l).run m =
      ((m.registry.invoke e.name e.args).1.map fun _ => (),
        { m.entered id with registry := (m.registry.invoke e.name e.args).2 }) := by
  have evaluated : (evaluateAll (e.args.map .literal) : Exec d (List Value)).run (m.entered id) =
      (.ok e.args, m.entered id) :=
    congrArg (·, m.entered id) (Expr.evaluateAll_literals _ _ _)
  have entered := run_atBlock (d := d) id { m with steps := m.steps + 1 }
  rw [Event.statement, Stmt.execute, run_bind_ok (run_tick_granted timely room),
    run_bind_ok entered]
  exact (run_bind_ok evaluated _).trans (run_invoke ..)

end Exec

namespace Registry

/-- The event at `i` is the first that is refused, for the reason `f`. -/
def StopsAt (r : Registry d) (events : List Event) (i : Nat) (f : Fault) : Prop :=
  ∃ e, events[i]? = some e ∧ (r.applyEvents (events.take i)).1 = .ok () ∧
    ((r.applyEvents (events.take i)).2.invoke e.name e.args).1 = .error f

theorem applyEvents_cons_ok {r r' : Registry d} {e : Event} {v : Value} (events : List Event)
    (made : r.invoke e.name e.args = (.ok v, r')) :
    r.applyEvents (e :: events) = r'.applyEvents events := by
  rw [applyEvents, made]

theorem applyEvents_cons_error {r r' : Registry d} {e : Event} {f : Fault} (events : List Event)
    (refused : r.invoke e.name e.args = (.error f, r')) :
    r.applyEvents (e :: events) = (.error f, r') := by
  rw [applyEvents, refused]

theorem StopsAt.cons {r r' : Registry d} {e : Event} {v : Value} {events : List Event} {i : Nat}
    {f : Fault} (made : r.invoke e.name e.args = (.ok v, r')) (h : r'.StopsAt events i f) :
    r.StopsAt (e :: events) (i + 1) f := by
  obtain ⟨stop, there, before, refused⟩ := h
  refine ⟨stop, there, ?_, ?_⟩
  · rw [List.take_succ_cons, applyEvents_cons_ok _ made, before]
  · rw [List.take_succ_cons, applyEvents_cons_ok _ made, refused]

end Registry

namespace Exec

/-- A sequence of calls does to the registry what the events of the calls do. A refused call is the
last that was charged. -/
theorem run_statements (timely : ∀ n, ¬l.clock n > l.deadline) (calls : List (Event × Value))
    {m : Machine d} (room : m.steps + calls.length ≤ l.stepBudget.toNat) : ∃ m',
    (Stmt.executeAll l (calls.map fun c => c.1.statement c.2)).run m =
      ((m.registry.applyEvents (calls.map Prod.fst)).1, m') ∧
    m'.registry = (m.registry.applyEvents (calls.map Prod.fst)).2 ∧
    ∀ f, (m.registry.applyEvents (calls.map Prod.fst)).1 = .error f →
      ∃ i, m.registry.StopsAt (calls.map Prod.fst) i f ∧ m'.steps = m.steps + i + 1 := by
  induction calls generalizing m with
  | nil => exact ⟨m, rfl, rfl, nofun⟩
  | cons c calls ih =>
    obtain ⟨e, id⟩ := c
    rw [List.length_cons] at room
    have first := run_statement timely e id (m := m) (by omega)
    cases answer : m.registry.invoke e.name e.args with
    | mk result r =>
      rw [answer] at first
      rw [List.map_cons, List.map_cons, Stmt.executeAll]
      cases result with
      | error f =>
        have refused := Registry.applyEvents_cons_error (calls.map Prod.fst) answer
        rw [run_bind, first, refused]
        refine ⟨{ m.entered id with registry := r }, rfl, rfl, ?_⟩
        rintro f' same
        cases same
        exact ⟨0, ⟨e, rfl, rfl, congrArg Prod.fst answer⟩, rfl⟩
      | ok v =>
        have made := Registry.applyEvents_cons_ok (calls.map Prod.fst) answer
        obtain ⟨m', run, registry, stops⟩ := ih (m := { m.entered id with registry := r })
          (by change m.steps + 1 + calls.length ≤ _; omega)
        refine ⟨m', ?_, ?_, ?_⟩
        · rw [made, run_bind_ok first, run]
        · rw [made, registry]
        · intro f failed
          rw [made] at failed
          obtain ⟨i, there, steps⟩ := stops f failed
          refine ⟨i + 1, there.cons answer, ?_⟩
          rw [steps]
          change m.steps + 1 + i + 1 = _
          omega

end Exec

/-- Outcomes that differ at most in where they place a failure and in what was printed. -/
inductive Outcome.Alike : Outcome → Outcome → Prop
  | finished (trace : Trace) (o o' : List String) : Alike (.finished trace o) (.finished trace o')
  | failed {x y : Diagnostic} (kind : x.kind = y.kind) (message : x.message = y.message)
    (actions : x.partialTrace = y.partialTrace) (o o' : List String) :
    Alike (.failed x o) (.failed y o')

/-- The fault leaves a run without a report, by way of a value that does not fit. -/
def Fault.Escapes (f : Fault) (m : Misfit) : Prop :=
  f = .misfit m ∨ f.writable = false ∧ m = .unwritable

namespace Executor

/-- The report on a program that ran to its end: accepted, with exit code zero and no errors. -/
structure Report.Accepted (report : Report) (stdout : String) : Prop where
  status : ∃ es, report.status = .ok es ∧ Value.lookup es "id" = some accepted
  exitCode : report.get "exit_code" = 0
  stderr : report.text "stderr" "strip" = .ok ""
  compileOutput : ∃ s, report.text "compile_output" "strip" = .ok s
  stdout : report.text "stdout" "splitlines" = .ok stdout

theorem Report.Accepted.findings {report : Report} {stdout : String}
    (h : report.Accepted stdout) : ∃ f, Findings.ofReport report = .ok f ∧ f.stdout = stdout ∧
      f.statusId = accepted ∧ f.stderr = "" ∧ f.isFailure = false := by
  obtain ⟨es, status, id⟩ := h.status
  obtain ⟨compileOutput, compiled⟩ := h.compileOutput
  simp only [Findings.ofReport, status, h.stderr, compiled, h.stdout, bind, Except.bind, pure,
    Except.pure, id, Option.getD_some, h.exitCode]
  exact ⟨_, rfl, rfl, rfl, rfl, rfl⟩

variable {p : Submission} {report : Report} {stdout : String} {r r' : Registry d}

/-- An accepted report leaves the outcome to the events. -/
theorem Report.Accepted.interpret (h : report.Accepted stdout) {x : Except Fault Unit}
    (applied : r.applyEvents (Event.ofOutput stdout).1 = (x, r')) :
    ∃ f : Findings, f.isFailure = false ∧
      Executor.interpret p report r = f.conclude p (Event.ofOutput stdout).2 r'.trace x := by
  obtain ⟨f, read, rfl, status, quiet, fine⟩ := h.findings
  have early : f.early? p (Event.ofOutput f.stdout).2 = none := by
    unfold Findings.early? Findings.isUnread
    rw [status, quiet]
    rfl
  refine ⟨f, fine, ?_⟩
  unfold Executor.interpret interpretIn
  rw [read]
  simp only [early, applied]

theorem interpret_ok (h : report.Accepted stdout)
    (applied : r.applyEvents (Event.ofOutput stdout).1 = (.ok (), r')) :
    interpret p report r = .ok (.finished r'.trace (Event.ofOutput stdout).2) := by
  obtain ⟨f, fine, same⟩ := h.interpret (p := p) applied
  rw [same, Findings.conclude, fine]
  rfl

theorem interpret_misfit {m : Misfit} (h : report.Accepted stdout)
    (applied : r.applyEvents (Event.ofOutput stdout).1 = (.error (.misfit m), r')) :
    interpret p report r = .error m := by
  obtain ⟨f, _, same⟩ := h.interpret (p := p) applied
  rw [same, Findings.conclude]

theorem interpret_own {f : Fault} (own : f.isOwn = true) (h : report.Accepted stdout)
    (applied : r.applyEvents (Event.ofOutput stdout).1 = (.error f, r')) :
    interpret p report r = if f.writable then
      .ok (.failed (refusal f r'.trace) (Event.ofOutput stdout).2) else .error .unwritable := by
  obtain ⟨found, _, same⟩ := h.interpret (p := p) applied
  rw [same]
  cases f with
  | misfit m => cases own
  | _ => rfl

end Executor

theorem alike_report_refusal (f : Fault) (m : Machine d) (o o' : List String) :
    Outcome.Alike (.failed (Program.report f m) o)
      (.failed (Executor.refusal f m.registry.trace) o') := by
  unfold Program.report Executor.refusal
  split
  · exact .failed rfl rfl rfl o o'
  · refine .failed ?_ ?_ ?_ o o' <;> rfl

/-- A run here and a report from the executor that come upon the same in the registry. -/
theorem alike_of_applied {x : Except Fault Unit} {m : Machine d} {p : Submission} {r : Registry d}
    {report : Executor.Report} {stdout : String} (accepted : report.Accepted stdout)
    (applied : r.applyEvents (Event.ofOutput stdout).1 = (x, m.registry)) :
    (∃ o o', Program.conclude (x, m) = .ok o ∧ Executor.interpret p report r = .ok o' ∧
      o.Alike o') ∨
    ∃ f e, x = .error f ∧ f.Escapes e ∧ Program.conclude (x, m) = .error e ∧
      Executor.interpret p report r = .error e := by
  cases x with
  | ok u => exact .inl ⟨_, _, rfl, Executor.interpret_ok accepted applied, .finished ..⟩
  | error f =>
    cases own : f.isOwn with
    | false =>
      obtain ⟨e, rfl⟩ : ∃ e, f = .misfit e := by
        cases f with
        | misfit e => exact ⟨e, rfl⟩
        | _ => contradiction
      exact .inr ⟨_, e, rfl, .inl rfl, rfl, Executor.interpret_misfit accepted applied⟩
    | true =>
      rw [Program.conclude_own own, Executor.interpret_own own accepted applied]
      cases told : f.writable with
      | true => exact .inl ⟨_, _, rfl, rfl, alike_report_refusal f m _ _⟩
      | false => exact .inr ⟨f, .unwritable, rfl, .inr ⟨told, rfl⟩, rfl, rfl⟩

/-- A sequence of calls comes to the same here and on the executor, whatever it is that stops it:
the same trace, a failure that is told in the same words after the same actions, or the same error
out of the same call. -/
theorem back_ends_agree (calls : List (Event × Value)) (q : Program) (p : Submission)
    (r : Registry d) {report : Executor.Report} {stdout : String}
    (straight : q.statements = calls.map fun c => c.1.statement c.2)
    (json : ∀ c ∈ calls, ∀ v ∈ c.1.args, Json.IsJson v) (timely : l.Timely)
    (budget : (calls.length : Int) ≤ l.stepBudget)
    (printed : Printout.page (calls.map fun c => .call c.1) = .ok stdout)
    (accepted : report.Accepted stdout) :
    (∃ x y, q.run l r = .ok x ∧ Executor.interpret p report r = .ok y ∧ x.Alike y) ∨
    (∃ m f i, q.run l r = .error m ∧ Executor.interpret p report r = .error m ∧ f.Escapes m ∧
      r.StopsAt (calls.map Prod.fst) i f ∧ (q.finalMachine l r).2.steps = i + 1) := by
  have fits : ∀ o ∈ calls.map fun c => Printout.call c.1, o.Fits := by
    intro o member
    obtain ⟨c, made, rfl⟩ := List.mem_map.mp member
    exact json c made
  have events : (Event.ofOutput stdout).1 = calls.map Prod.fst := by
    rw [Printout.ofOutput_of_page fits printed]
    change (calls.map fun c => Printout.call c.1).filterMap Printout.event? = _
    rw [List.filterMap_map]
    exact congrFun List.filterMap_eq_map calls
  obtain ⟨m, run, registry, stops⟩ := Exec.run_statements timely.inTime calls
    (m := ({ registry := r } : Machine d)) (by change 0 + calls.length ≤ _; omega)
  have final : q.finalMachine l r = ((r.applyEvents (calls.map Prod.fst)).1, m) := by
    rw [Program.finalMachine, straight]
    exact run
  have applied : r.applyEvents (Event.ofOutput stdout).1 =
      ((r.applyEvents (calls.map Prod.fst)).1, m.registry) := by
    rw [events, registry]
  rw [Program.run_timely timely, final]
  obtain same | ⟨f, e, failed, escapes, here, there⟩ := alike_of_applied (p := p) accepted applied
  · exact .inl same
  · obtain ⟨i, stopsAt, steps⟩ := stops f failed
    exact .inr ⟨e, f, i, here, there, escapes, stopsAt, steps.trans (by simp)⟩

/-- Two calls where only one action is allowed. -/
theorem back_ends_agree_on_prints :
    let calls : List (Event × Value) :=
      [(⟨"cetak", [.text "a"]⟩, "b1"), (⟨"cetak", [.null]⟩, .null)]
    let q : Program := { statements := calls.map fun c => c.1.statement c.2 }
    let p := Script.submission .math "" "cetak('a'); cetak(None)" 2
    let r : Registry .math := { shadow := (), maxActions := 1 }
    let stdout := "@@blockykids:action \x7b\"name\": \"cetak\", \"args\": [\"a\"]\x7d\n" ++
      "@@blockykids:action \x7b\"name\": \"cetak\", \"args\": [null]\x7d\n"
    let report : Executor.Report :=
      ⟨[("status", .dict [("id", 3)]), ("exit_code", 0), ("stdout", .text stdout)]⟩
    (∃ x y, q.run {} r = .ok x ∧ Executor.interpret p report r = .ok y ∧ x.Alike y) ∨
    (∃ m f i, q.run {} r = .error m ∧ Executor.interpret p report r = .error m ∧ f.Escapes m ∧
      r.StopsAt (calls.map Prod.fst) i f ∧ (q.finalMachine {} r).2.steps = i + 1) := by
  intro calls q p r stdout report
  have early : ¬(0 : Float) > Limits.deadline {} := by decide +kernel
  have json : ∀ c ∈ calls, ∀ v ∈ c.1.args, Json.IsJson v :=
    List.forall_mem_cons.mpr ⟨List.forall_mem_singleton.mpr (.text _),
      List.forall_mem_singleton.mpr (List.forall_mem_singleton.mpr .null)⟩
  exact back_ends_agree calls q p r rfl json ⟨rfl, fun _ => early⟩ (by decide) rfl
    ⟨⟨_, rfl, rfl⟩, rfl, rfl, ⟨_, rfl⟩, rfl⟩

end PuzzleWorlds
