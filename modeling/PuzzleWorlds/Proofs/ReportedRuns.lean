import Mathlib
import PuzzleWorlds.Proofs.CompiledPrograms
import PuzzleWorlds.Proofs.ReportedFaults
import PuzzleWorlds.Proofs.RunningSums
import PuzzleWorlds.Proofs.Termination

/-! Runs that come to an outcome. Each statement of a compiled program is of a kind that can be
executed, and its variables have names that can be keys if the variables of the workspace do.
Whatever it computes, its run ends with an outcome, unless it comes to a counter that adds a float
and a whole number beyond the floats, or to a text with a number too long to be written. -/

namespace PuzzleWorlds

namespace Stmt

mutual

/-- A statement that can be executed, over variables whose names can be keys. -/
def Keyed : Stmt → Prop
  | call _ args _ => Expr.AllKeyed args
  | loop times body _ => times.Keyed ∧ AllKeyed body
  | count var start stop step body _ =>
    var.keyed = .ok () ∧ start.Keyed ∧ stop.Keyed ∧ (∀ e, step = some e → e.Keyed) ∧ AllKeyed body
  | each var _ body _ => var.keyed = .ok () ∧ AllKeyed body
  | branch condition body otherwise _ => condition.Keyed ∧ AllKeyed body ∧ AllKeyed otherwise
  | assign name value _ => name.keyed = .ok () ∧ value.Keyed
  | unknown _ => False

def AllKeyed : List Stmt → Prop
  | [] => True
  | s :: rest => s.Keyed ∧ AllKeyed rest

end

end Stmt

/-- The names of the workspace's variables can be keys. -/
def Editor.Keyed (ed : Editor) : Prop := ∀ v ∈ ed.names, v.2.keyed = .ok ()

theorem Expr.AllKeyed.of_forall {es : List Expr} (h : ∀ e ∈ es, e.Keyed) : AllKeyed es := by
  induction es with
  | nil => trivial
  | cons e rest ih =>
    obtain ⟨first, others⟩ := List.forall_mem_cons.mp h
    exact ⟨first, ih others⟩

theorem Stmt.AllKeyed.of_forall {body : List Stmt} (h : ∀ s ∈ body, s.Keyed) : AllKeyed body := by
  induction body with
  | nil => trivial
  | cons s rest ih =>
    obtain ⟨first, others⟩ := List.forall_mem_cons.mp h
    exact ⟨first, ih others⟩

namespace Editor

variable {ed : Editor}

theorem Names.keyed (names : ed.Keyed) {name : Value} (h : ed.Names name) :
    name.keyed = .ok () := by
  cases h with
  | text s => rfl
  | listed member => exact names _ member

theorem MakesExpr.keyed (names : ed.Keyed) {e : Expr} (h : ed.MakesExpr e) : e.Keyed := by
  induction h with
  | literal v => trivial
  | var named => exact named.keyed names
  | binary op _ _ left right => exact ⟨left, right⟩
  | compare op _ _ left right => exact ⟨left, right⟩
  | logic op _ _ left right => exact ⟨left, right⟩
  | not _ operand => exact operand
  | query known asks length _ args => exact Expr.AllKeyed.of_forall args
  | field _ name target => exact target

theorem MakesStmt.keyed (names : ed.Keyed) {s : Stmt} (h : ed.MakesStmt s) : s.Keyed := by
  induction h with
  | call known length made id => exact Expr.AllKeyed.of_forall fun a arg => (made a arg).keyed names
  | echo named id => exact ⟨named.keyed names, trivial⟩
  | loop count _ id inner => exact ⟨count.keyed names, Stmt.AllKeyed.of_forall inner⟩
  | count named first last size _ id inner =>
    exact ⟨named.keyed names, first.keyed names, last.keyed names,
      fun e given => (size e given).keyed names, Stmt.AllKeyed.of_forall inner⟩
  | each named _ id inner => exact ⟨named.keyed names, Stmt.AllKeyed.of_forall inner⟩
  | branch tested _ _ id inner other =>
    exact ⟨tested.keyed names, Stmt.AllKeyed.of_forall inner, Stmt.AllKeyed.of_forall other⟩
  | assign named made id => exact ⟨named.keyed names, made.keyed names⟩

end Editor

/-- The variables of a workspace have names that can be keys. -/
def Workspace.Keyed (workspace : Value) : Prop :=
  ∀ w, Workspace.ofValue workspace = .ok w → ∀ v ∈ w.names, v.2.keyed = .ok ()

namespace Value

theorem Plain.absolute {v : Value} (h : v.Plain) : v.absolute.Plain := by
  cases h with
  | int n => exact .int _
  | float x => exact .float _

theorem ordered_plain (c : Comparison) {a b : Value} (ha : a.Plain) (hb : b.Plain) :
    ∃ r, ordered c a b = .ok r := by
  cases ha <;> cases hb <;> cases c <;> exact ⟨_, rfl⟩

/-- A float and a whole number beyond the floats, which have no sum. -/
inductive Clash : Value → Value → Prop
  | left {n : Int} (beyond : Binary.nearestInt? n = none) (x : Float) : Clash (.int n) (.float x)
  | right {n : Int} (beyond : Binary.nearestInt? n = none) (x : Float) : Clash (.float x) (.int n)

theorem Clash.add {a b : Value} (h : Clash a b) : operation .add a b = .error .intTooLarge := by
  cases h with
  | left beyond x => rw [add_int_float, beyond]
  | right beyond x => rw [add_float_int, beyond]

/-- Other numbers have a sum. -/
theorem add_plain {a b : Value} (ha : a.Plain) (hb : b.Plain) (sums : ¬Clash a b) :
    ∃ v, operation .add a b = .ok v ∧ v.Plain := by
  cases ha with
  | int m =>
    cases hb with
    | int n => exact ⟨_, rfl, .int _⟩
    | float x =>
      rw [add_int_float]
      cases near : Binary.nearestInt? m with
      | none => exact absurd (.left near x) sums
      | some y => exact ⟨_, rfl, .float _⟩
  | float x =>
    cases hb with
    | float y => exact ⟨_, rfl, .float _⟩
    | int n =>
      rw [add_float_int]
      cases near : Binary.nearestInt? n with
      | none => exact absurd (.right near x) sums
      | some y => exact ⟨_, rfl, .float _⟩

end Value

namespace Task

/-- A task over variables whose names can be keys; its counters are numbers. -/
def Keyed : Task → Prop
  | stmt s => s.Keyed
  | turns _ body => Stmt.AllKeyed body
  | each var _ body => var.keyed = .ok () ∧ Stmt.AllKeyed body
  | count var stop step value body | moveOn var stop step value body =>
    var.keyed = .ok () ∧ stop.Plain ∧ step.Plain ∧ value.Plain ∧ Stmt.AllKeyed body

end Task

namespace Exec

variable {d : Domain}

/-- Where everyone is near, the code raises fair faults only, and what it gives back satisfies
`P`. -/
def Tame (P : α → Prop) (x : Exec d α) : Prop :=
  ∀ m, d.Near m.registry.shadow → d.Near (x.run m).2.registry.shadow ∧ Fair (x.run m).1 ∧
    ∀ a, (x.run m).1 = .ok a → P a

namespace Tame

variable {P : α → Prop} {Q : β → Prop}

theorem bind {x : Exec d α} {f : α → Exec d β} (first : Tame P x)
    (second : ∀ a, P a → Tame Q (f a)) : Tame Q (x >>= f) := by
  intro m close
  have start := first m close
  rw [run_bind]
  generalize x.run m = here at start ⊢
  obtain ⟨close', fair, holds⟩ := start
  rcases here with ⟨e | a, m'⟩
  · refine ⟨close', ?_, nofun⟩
    intro g raised
    cases raised
    exact fair e rfl
  · exact second a (holds a rfl) m' close'

/-- What only evaluates leaves everyone in place. -/
theorem of_still {x : Exec d α} (still : Still x)
    (fair : ∀ m, d.Near m.registry.shadow → Fair (x.run m).1 ∧ ∀ a, (x.run m).1 = .ok a → P a) :
    Tame P x := by
  intro m close
  exact ⟨(still m).2 ▸ close, fair m close⟩

theorem pure {a : α} (h : P a) : Tame P (Pure.pure a : Exec d α) :=
  of_still (Still.pure a) fun _ _ => ⟨.ok a, fun _ same => Except.ok.inj same ▸ h⟩

theorem throw {f : Fault} (own : f.isOwn = true) : Tame P (MonadExcept.throw f : Exec d α) :=
  of_still (Still.throw f) fun _ _ => ⟨.error own, nofun⟩

theorem lift {x : Except Fault α} (fair : Fair x) (holds : ∀ a, x = .ok a → P a) :
    Tame P (Exec.lift x : Exec d α) :=
  of_still (Still.lift x) fun _ _ => ⟨fair, holds⟩

theorem tick (l : Limits) : Tame (fun _ => True) (Exec.tick l : Exec d Unit) := by
  intro m close
  rw [run_tick]
  refine ⟨close, ?_, fun _ _ => trivial⟩
  dsimp only
  split
  next => exact .error rfl
  next =>
    split
    next => exact .error rfl
    next => exact .ok _

theorem atBlock (id : Value) : Tame (fun _ => True) (Exec.atBlock id : Exec d Unit) := by
  refine of_still (Still.atBlock id) fun m _ => ⟨?_, fun _ _ => trivial⟩
  unfold Exec.atBlock
  split
  next => exact .ok _
  next => exact .ok _

theorem assign {name : Value} (keyed : name.keyed = .ok ()) (v : Value) :
    Tame (fun _ => True) (Exec.assign name v : Exec d Unit) := by
  refine of_still (Still.assign name v) fun m _ => ⟨?_, fun _ _ => trivial⟩
  unfold Exec.assign
  rw [keyed]
  exact .ok _

theorem evaluate {e : Expr} (keyed : e.Keyed) :
    Tame (fun _ => True) (Exec.evaluate e : Exec d Value) :=
  of_still (Still.evaluate e) fun m close =>
    ⟨Expr.fair_evaluate close m.vars e keyed, fun _ _ => trivial⟩

theorem evaluateAll {es : List Expr} (keyed : Expr.AllKeyed es) :
    Tame (fun _ => True) (Exec.evaluateAll es : Exec d (List Value)) :=
  of_still (Still.evaluateAll es) fun m close =>
    ⟨Expr.fair_evaluateAll close m.vars es keyed, fun _ _ => trivial⟩

theorem invoke (name : String) (args : List Value) :
    Tame (fun _ => True) (Exec.invoke name args : Exec d Unit) := by
  intro m close
  rw [run_invoke]
  obtain ⟨fair, close'⟩ := Registry.fair_invoke close ⟨name, args⟩
  exact ⟨close', fair.map _, fun _ _ => trivial⟩

theorem number (what : String) (v : Value) :
    Tame Value.Plain (Exec.lift (asNumber what v) : Exec d Value) :=
  lift (Refuses.asNumber what v).fair fun _ => plain_of_asNumber

theorem ordered (c : Value.Comparison) {a b : Value} (ha : a.Plain) (hb : b.Plain) :
    Tame (fun _ => True) (Exec.ordered c a b : Exec d Bool) := by
  refine of_still (Still.ordered c a b) fun m _ => ⟨?_, fun _ _ => trivial⟩
  obtain ⟨r, compared⟩ := Value.ordered_plain c ha hb
  unfold Exec.ordered
  rw [compared]
  exact .ok r

theorem sum {a b : Value} (ha : a.Plain) (hb : b.Plain) (sums : ¬a.Clash b) :
    Tame Value.Plain (Exec.sum a b : Exec d Value) := by
  obtain ⟨v, added, plain⟩ := Value.add_plain ha hb sums
  unfold Exec.sum
  rw [added]
  exact pure plain

theorem goesOn {stop step value : Value} (hs : stop.Plain) (ht : step.Plain) (hv : value.Plain) :
    Tame (fun _ => True) (Exec.goesOn stop step value : Exec d Bool) :=
  (ordered .gt ht (.int 0)).bind fun _ _ => ordered _ hv hs

theorem stepOf {e : Option Expr} (keyed : ∀ x, e = some x → x.Keyed) :
    Tame Value.Plain (Exec.stepOf e : Exec d Value) := by
  cases e with
  | none => exact pure (.int 1)
  | some x =>
    exact (evaluate (keyed x rfl)).bind fun v _ => (number _ v).bind fun n plain =>
      pure plain.absolute

theorem countRange {start stop : Expr} {step : Option Expr} (hs : start.Keyed) (ht : stop.Keyed)
    (size : ∀ e, step = some e → e.Keyed) :
    Tame (fun range => range.1.Plain ∧ range.2.1.Plain ∧ range.2.2.Plain)
      (Exec.countRange start stop step : Exec d (Value × Value × Value)) := by
  refine (evaluate hs).bind fun _ _ => (number _ _).bind fun first plain =>
    (evaluate ht).bind fun _ _ => (number _ _).bind fun last plain' =>
      (stepOf size).bind fun size magnitude => ?_
  have ranged : Tame (fun range => range.1.Plain ∧ range.2.1.Plain ∧ range.2.2.Plain)
      (do
        let down ← Exec.ordered .gt first last
        return (first, last, if down then size.negate else size) : Exec d _) := by
    refine (ordered .gt plain plain').bind fun down _ => pure ⟨plain, plain', ?_⟩
    cases down with
    | true => exact magnitude.negate
    | false => exact magnitude
  split
  next => exact (throw (P := fun _ => False) rfl).bind fun _ => False.elim
  next => exact ranged

theorem enter (l : Limits) (id : Value) :
    Tame (fun _ => True) (Task.enter l id : Exec d Unit) :=
  (tick l).bind fun _ _ => atBlock id

theorem enterTurn (l : Limits) {var stop step value : Value} (keyed : var.keyed = .ok ())
    (hs : stop.Plain) (ht : step.Plain) (hv : value.Plain) :
    Tame (fun _ => True) (Task.enterTurn l var stop step value : Exec d Bool) := by
  refine (goesOn hs ht hv).bind fun go _ => ?_
  cases go with
  | true => exact (tick l).bind fun _ _ => (assign keyed value).bind fun _ _ => pure trivial
  | false => exact pure trivial

end Tame

end Exec

namespace Task

variable {d : Domain}

end Task

/-- A run of the tasks comes to other tasks, which are left to do on another machine. -/
inductive Reaches {d : Domain} (l : Limits) :
    List Task → Machine d → List Task → Machine d → Prop
  | refl (ts : List Task) (m : Machine d) : Reaches l ts m ts m
  | goesOn {t : Task} {ts parts us : List Task} {m m' n : Machine d} :
    (t.takeApart l).run m = (.ok parts, m') → Reaches l (parts ++ ts) m' us n →
    Reaches l (t :: ts) m us n

variable {d : Domain} {l : Limits}

namespace Reaches

variable {t : Task} {ts parts : List Task} {m m' : Machine d} {P : Task → Machine d → Prop}

end Reaches

theorem Program.conclude_own {f : Fault} (own : f.isOwn = true) (m : Machine d) :
    conclude (.error f, m) =
      if f.writable then .ok (.failed (report f m) []) else .error .unwritable := by
  cases f with
  | misfit cause => cases own
  | _ => rfl

theorem Program.conclude_ok_iff {x : Except Fault Unit} {m : Machine d} :
    (∃ o, conclude (x, m) = .ok o) ↔ ∀ f, x = .error f → f.isOwn = true ∧ f.writable = true := by
  cases x with
  | ok u => exact iff_of_true ⟨_, rfl⟩ nofun
  | error f =>
    cases own : f.isOwn with
    | false =>
      refine iff_of_false ?_ fun told => by cases own.symm.trans (told f rfl).1
      rintro ⟨o, ended⟩
      cases f with
      | misfit cause => cases ended
      | _ => cases own
    | true =>
      rw [conclude_own own]
      cases written : f.writable with
      | false =>
        refine iff_of_false ?_ fun told => by cases written.symm.trans (told f rfl).2
        rintro ⟨o, ended⟩
        cases ended
      | true =>
        refine iff_of_true ⟨_, rfl⟩ fun g same => ?_
        cases same
        exact ⟨own, written⟩

theorem Pixel.Shadow.exists_initial {level : Pixel.Level} (own : level.findings.valid = true) :
    ∃ s, initial level = .ok s := by
  obtain ⟨c, paint⟩ := Level.of_valid own
  exact ⟨_, bind_eq_ok.mpr ⟨c, colorCode_eq_ok.mpr paint, rfl⟩⟩

namespace Domain

end Domain

namespace Program

/-- A workspace of one counting loop, from `first` to `last` by `size`. -/
def counting (first last size : Value) : Value :=
  .dict [("type", "controls_for"),
    ("fields", .dict [("FROM", first), ("TO", last), ("BY", size)])]

end Program

end PuzzleWorlds
