import PuzzleWorlds.Proofs.CompiledPrograms
import PuzzleWorlds.Proofs.ReportedFaults
import PuzzleWorlds.Proofs.StepBudget

/-! The names in compiled programs. Whatever a block of a world compiles to is a command or a query
of that world, with an argument for each that it takes. Two block types are compiled in every world
although one world only has what they name: the echo of an assignment prints on the console, and
the loop over the enemies goes through the arena's list. -/

namespace PuzzleWorlds

/-- Whether a command accepts so many arguments. -/
def CommandSpec.takes (c : CommandSpec) (n : Nat) : Bool :=
  n ≤ c.params.length && (firstMissing c.params n).isNone

theorem CommandSpec.takes_iff {c : CommandSpec} {name : String} {args : List Value} :
    c.takes args.length = true ↔ ∃ a, c.bind name args = .ok a := by
  unfold takes bind
  rw [Bool.and_eq_true, decide_eq_true_eq]
  split
  next many => exact iff_of_false (fun few => absurd few.1 (Nat.not_le.mpr many)) nofun
  next few =>
    cases firstMissing c.params args.length with
    | some p => exact iff_of_false nofun nofun
    | none => exact iff_of_true ⟨Nat.not_lt.mp few, rfl⟩ ⟨_, rfl⟩

namespace Domain

/-- Whether a name stands for a command of the world that accepts so many arguments. -/
def offers (d : Domain) (name : String) (n : Nat) : Bool :=
  (d.command? name).any fun c => (commandSpec c).takes n

/-- A block stands for a command that accepts its arguments, and for a query if it is a value. -/
theorem offers_block {d : Domain} {spec : BlockSpec} (known : spec ∈ d.blocks) :
    d.offers spec.command spec.args.length = true ∧
      (spec.query = true → d.isQuery spec.command = true) := by
  revert spec
  cases d <;> decide +kernel

/-- Only the console can print. -/
theorem offers_print_iff {d : Domain} : d.offers "print_value" 1 = true ↔ d = math := by
  cases d <;> decide +kernel

theorem command?_print {d : Domain} (other : d ≠ math) : d.command? "print_value" = none := by
  cases d with
  | math => exact absurd rfl other
  | _ => rfl

/-- Only the arena has enemies to go through. -/
theorem exists_enemies_iff {d : Domain} (s : d.Shadow) :
    (∃ items, collection? s "enemies" = some items) ↔ d = combat := by
  cases d with
  | combat => exact iff_of_true ⟨_, rfl⟩ rfl
  | _ => exact iff_of_false nofun nofun

end Domain

variable {d : Domain}

mutual

/-- Every query of the expression is one of the world and accepts its arguments. -/
def Expr.Named (d : Domain) : Expr → Prop
  | literal _ | var _ | unknown _ => True
  | binary _ a b | compare _ a b | logic _ a b => a.Named d ∧ b.Named d
  | not a => a.Named d
  | query name args =>
    d.isQuery name = true ∧ d.offers name args.length = true ∧ Expr.AllNamed d args
  | field target _ => target.Named d

def Expr.AllNamed (d : Domain) : List Expr → Prop
  | [] => True
  | e :: rest => e.Named d ∧ Expr.AllNamed d rest

end

theorem Expr.AllNamed.of_forall {es : List Expr} (h : ∀ e ∈ es, e.Named d) : AllNamed d es := by
  induction es with
  | nil => trivial
  | cons e rest ih =>
    obtain ⟨first, others⟩ := List.forall_mem_cons.mp h
    exact ⟨first, ih others⟩

namespace Stmt

/-- What the statement itself names is there: its command, its queries and its list. -/
def Named (r : Registry d) : Stmt → Prop
  | call name args _ => d.offers name args.length = true ∧ Expr.AllNamed d args
  | loop times _ _ => times.Named d
  | count _ start stop step _ _ => start.Named d ∧ stop.Named d ∧ ∀ e ∈ step, e.Named d
  | each _ collection _ _ => ∃ items, r.collection collection = .ok items
  | branch condition _ _ _ => condition.Named d
  | assign _ value _ => value.Named d
  | unknown _ => True

/-- A statement that names what only another world has, and the fault that it ends with. -/
inductive Strays (d : Domain) : Stmt → Fault → Prop
  | echo (other : d ≠ .math) (args : List Expr) (id : Value) :
    Strays d (.call "print_value" args id) (.unknownCommand "print_value" d.name)
  | each (other : d ≠ .combat) (var : Value) (body : List Stmt) (id : Value) :
    Strays d (.each var "enemies" body id) (.unknownCollection "enemies" d.name)

/-- The statements right inside a statement. -/
def inner : Stmt → List Stmt
  | loop _ body _ | count _ _ _ _ body _ | each _ _ body _ => body
  | branch _ body otherwise _ => body ++ otherwise
  | call .. | assign .. | unknown _ => []

/-- A statement is among others or inside one of them, however deep. -/
inductive Within (s : Stmt) : List Stmt → Prop
  | here {stmts : List Stmt} (member : s ∈ stmts) : Within s stmts
  | deeper {t : Stmt} {stmts : List Stmt} (member : t ∈ stmts) (inside : Within s t.inner) :
    Within s stmts

namespace Within

variable {s t : Stmt} {body stmts : List Stmt}

theorem mono (h : s.Within body) (sub : body ⊆ stmts) : s.Within stmts := by
  cases h with
  | here member => exact .here (sub member)
  | deeper member inside => exact .deeper (sub member) inside

end Within

end Stmt

namespace Editor

variable {ed : Editor}

theorem MakesExpr.named {e : Expr} (h : ed.MakesExpr e) : e.Named ed.domain := by
  induction h with
  | literal _ | var _ => trivial
  | binary _ _ _ left right | compare _ _ _ left right | logic _ _ _ left right =>
    exact ⟨left, right⟩
  | not _ operand => exact operand
  | query known asks length _ args =>
    obtain ⟨offered, query⟩ := Domain.offers_block known
    exact ⟨query asks, length ▸ offered, .of_forall args⟩
  | field _ name target => exact target

/-- All that a compiled statement names is there, unless it strays. -/
theorem MakesStmt.named_iff {s : Stmt} (h : ed.MakesStmt s) (r : Registry ed.domain) :
    s.Named r ↔ ∀ f, ¬s.Strays ed.domain f := by
  cases h with
  | @call spec known args length made id =>
    have offered : ed.domain.offers spec.command args.length = true :=
      length ▸ (Domain.offers_block known).1
    refine iff_of_true ⟨offered, .of_forall fun a arg => (made a arg).named⟩ fun f strays => ?_
    generalize spec.command = name at offered strays
    cases strays with
    | echo other =>
      unfold Domain.offers at offered
      rw [Domain.command?_print other] at offered
      cases offered
  | echo named id =>
    constructor
    · rintro ⟨offered, _⟩ f (⟨other⟩ | _)
      exact other (Domain.offers_print_iff.mp offered)
    · intro stays
      refine ⟨Domain.offers_print_iff.mpr (Classical.byContradiction fun other => ?_),
        .of_forall (List.forall_mem_singleton.mpr trivial)⟩
      exact stays _ (.echo other _ id)
  | each named inner id =>
    have listed : (∃ items, r.collection "enemies" = .ok items) ↔ ed.domain = .combat := by
      rw [← Domain.exists_enemies_iff r.shadow]
      unfold Registry.collection
      cases Domain.collection? r.shadow "enemies" with
      | some items => exact iff_of_true ⟨_, rfl⟩ ⟨_, rfl⟩
      | none => exact iff_of_false nofun nofun
    refine listed.trans ⟨?_, fun stays => Classical.byContradiction fun other => ?_⟩
    · rintro arena f (_ | ⟨other⟩)
      exact other arena
    · exact stays _ (.each other _ _ id)
  | loop count inner id => exact iff_of_true count.named nofun
  | count named first last size inner id =>
    exact iff_of_true ⟨first.named, last.named, fun e given => (size e given).named⟩ nofun
  | branch tested inner other id => exact iff_of_true tested.named nofun
  | assign named made id => exact iff_of_true made.named nofun

theorem MakesStmt.inner {s : Stmt} (h : ed.MakesStmt s) : ed.Makes s.inner := by
  cases h with
  | call | echo | assign => exact .nil
  | loop _ inner | count _ _ _ _ inner | each _ inner => exact inner
  | branch _ inner other => exact Makes.append inner other

theorem Makes.within {stmts : List Stmt} (h : ed.Makes stmts) {s : Stmt} (inside : s.Within stmts) :
    ed.MakesStmt s := by
  induction inside with
  | here member => exact h s member
  | deeper member _ ih => exact ih (h _ member).inner

end Editor

namespace Registry

variable {r : Registry d} {name : String} {args : List Value}

theorem raises_respond (offered : d.offers name args.length = true) :
    Raises (fun f => f.isNaming = false) (r.respond name args) := by
  obtain ⟨c, known, takes⟩ := (Option.any_eq_true _ _).mp offered
  obtain ⟨a, bound⟩ := CommandSpec.takes_iff.mp takes
  unfold respond
  rw [known]
  dsimp only
  rw [bound]
  refine (Domain.call_fails r.shadow c a).mono fun f failed => ?_
  cases d with
  | robot | building | sorting | music | sprite | pixel | math => exact failed.notNaming
  | combat =>
    obtain refusal | ⟨e, _, failed⟩ := failed
    · exact refusal.notNaming
    · unfold Combat.Shadow.distanceTo at failed
      split at failed
      next => cases failed
      next =>
        cases failed
        rfl

/-- A call that the world offers does not fail for its name. -/
theorem raises_invoke (offered : d.offers name args.length = true) :
    Raises (fun f => f.isNaming = false) (r.invoke name args).1 := by
  have move := r.invokes ⟨name, args⟩
  generalize (r.invoke name args).1 = x, (r.invoke name args).2 = r' at move
  cases move with
  | refuses refused =>
    intro f raised
    cases raised
    exact raises_respond offered _ refused
  | answers | acts => exact .ok _
  | exhausts => exact .of_fault rfl

end Registry

namespace Expr

theorem AllAsk.of_forall {P : Fault → Prop} {r : Registry d} {es : List Expr}
    (h : ∀ e ∈ es, e.Asks P r) : AllAsk P r es := by
  induction es with
  | nil => trivial
  | cons e rest ih =>
    obtain ⟨first, others⟩ := List.forall_mem_cons.mp h
    exact ⟨first, ih others⟩

end Expr

namespace Editor

variable {ed : Editor}

theorem MakesExpr.asks {P : Fault → Prop} (plain : ∀ f : Fault, f.isNaming = false → P f) {e : Expr}
    (h : ed.MakesExpr e) (r : Registry ed.domain) : e.Asks P r := by
  induction h with
  | literal _ => trivial
  | var _ => exact fun m _ => plain _ rfl
  | binary _ _ _ left right | compare _ _ _ left right | logic _ _ _ left right =>
    exact ⟨left, right⟩
  | not _ operand => exact operand
  | query known asks length _ args =>
    obtain ⟨offered, query⟩ := Domain.offers_block known
    refine ⟨fun refused => ?_, fun vals same => ?_, .of_forall args⟩
    · cases (query asks).symm.trans refused
    · rw [← length, ← same] at offered
      exact (Registry.raises_invoke offered).mono plain
  | field _ name target => exact target

end Editor

namespace Exec

/-- Every fault that stops the code satisfies `P`. -/
def Stops (P : Fault → Prop) (x : Exec d α) : Prop := ∀ m, Raises P (x.run m).1

namespace Stops

variable {P : Fault → Prop}

theorem pure (a : α) : Stops P (Pure.pure a : Exec d α) := fun _ => .ok a

theorem throw {f : Fault} (h : P f) : Stops P (MonadExcept.throw f : Exec d α) :=
  fun _ => .of_fault h

theorem lift {x : Except Fault α} (h : Raises P x) : Stops P (Exec.lift x : Exec d α) := fun _ => h

theorem getMachine {f : Machine d → Exec d α} (h : ∀ m, Stops P (f m)) :
    Stops P (MonadState.get >>= f) := fun m => h m m

theorem bind {x : Exec d α} {f : α → Exec d β} (first : Stops P x) (second : ∀ a, Stops P (f a)) :
    Stops P (x >>= f) := by
  intro m
  have start := first m
  rw [run_bind]
  generalize x.run m = here at start ⊢
  rcases here with ⟨g | a, m'⟩
  · intro f raised
    cases raised
    exact start g rfl
  · exact second a m'

theorem atBlock (id : Value) : Stops P (Exec.atBlock id : Exec d Unit) := by
  intro m
  unfold Exec.atBlock
  split
  next => exact .ok _
  next => exact .ok _

variable (plain : ∀ f : Fault, f.isNaming = false → P f)
include plain

/-- What only refuses does not fail for a name. -/
theorem refuses {x : Except Fault α} (h : Refuses x) : Stops P (Exec.lift x : Exec d α) :=
  lift (h.mono fun _ refusal => plain _ refusal.notNaming)

theorem tick (l : Limits) : Stops P (Exec.tick l : Exec d Unit) := by
  intro m
  rw [run_tick]
  dsimp only
  split
  next => exact .of_fault (plain _ rfl)
  next =>
    split
    next => exact .of_fault (plain _ rfl)
    next => exact .ok _

theorem assign (name v : Value) : Stops P (Exec.assign name v : Exec d Unit) := by
  unfold Exec.assign
  split
  next => exact throw (plain _ rfl)
  next => exact fun _ => .ok _

theorem ordered (c : Value.Comparison) (a b : Value) :
    Stops P (Exec.ordered c a b : Exec d Bool) := by
  unfold Exec.ordered
  split
  next => exact pure _
  next => exact throw (plain _ rfl)

theorem sum (a b : Value) : Stops P (Exec.sum a b : Exec d Value) := by
  unfold Exec.sum
  split
  next => exact pure _
  next => exact throw (plain _ rfl)

theorem goesOn (stop step value : Value) : Stops P (Exec.goesOn stop step value : Exec d Bool) :=
  (ordered plain _ _ _).bind fun _ => ordered plain _ _ _

theorem turns (l : Limits) {body : Exec d Unit} (inner : Stops P body) (n : Nat) :
    Stops P (Exec.turns l body n) := by
  induction n with
  | zero => exact pure ()
  | succ n ih => exact (tick plain l).bind fun _ => inner.bind fun _ => ih

theorem forEach (l : Limits) (var : Value) {body : Exec d Unit} (inner : Stops P body)
    (items : List Value) : Stops P (Exec.forEach l var body items) := by
  induction items with
  | nil => exact pure ()
  | cons item rest ih =>
    exact (tick plain l).bind fun _ => (assign plain _ _).bind fun _ => inner.bind fun _ => ih

theorem counting (l : Limits) (var stop step : Value) {body : Exec d Unit} (inner : Stops P body)
    (value : Value) (bound : Nat) : Stops P (Exec.counting l var stop step body value bound) := by
  induction bound generalizing value with
  | zero => exact throw (plain _ rfl)
  | succ bound ih =>
    refine (goesOn plain _ _ _).bind fun go => ?_
    cases go with
    | true =>
      exact (tick plain l).bind fun _ => (assign plain _ _).bind fun _ => inner.bind fun _ =>
        (sum plain _ _).bind fun _ => ih _
    | false => exact pure ()

variable {ed : Editor}

theorem evaluate {e : Expr} (made : ed.MakesExpr e) :
    Stops P (Exec.evaluate e : Exec ed.domain Value) := fun m =>
  Expr.raises_evaluate (fun _ refusal => plain _ refusal.notNaming) _ e (made.asks plain m.registry)

theorem countRange {start stop : Expr} (first : ed.MakesExpr start) (last : ed.MakesExpr stop)
    {step : Option Expr} (size : ∀ e ∈ step, ed.MakesExpr e) :
    Stops P (Exec.countRange start stop step : Exec ed.domain (Value × Value × Value)) := by
  have number (what : String) (v : Value) :
      Stops P (Exec.lift (asNumber what v) : Exec ed.domain Value) :=
    refuses plain (.asNumber what v)
  have magnitude : Stops P (Exec.stepOf step : Exec ed.domain Value) := by
    cases step with
    | none => exact pure 1
    | some e =>
      exact (evaluate plain (size e rfl)).bind fun _ => (number _ _).bind fun _ => pure _
  refine (evaluate plain first).bind fun _ => (number _ _).bind fun _ =>
    (evaluate plain last).bind fun _ => (number _ _).bind fun _ => magnitude.bind fun size => ?_
  split
  next => exact (throw (plain _ rfl)).bind fun _ => (ordered plain _ _ _).bind fun _ => pure _
  next => exact (ordered plain _ _ _).bind fun _ => pure _

/-- A call with compiled arguments stops as the command of its name does, which is given a value for
each argument. -/
theorem call {name : String} {args : List Expr} (made : ∀ a ∈ args, ed.MakesExpr a)
    (called : ∀ (r : Registry ed.domain) (vals : List Value), vals.length = args.length →
      Raises P (r.invoke name vals).1) :
    Stops P (do Exec.invoke name (← Exec.evaluateAll args) : Exec ed.domain Unit) := by
  intro m
  have evaluated := Expr.raises_evaluateAll (r := m.registry)
    (fun _ refusal => plain _ refusal.notNaming) m.vars args
    (.of_forall fun a arg => (made a arg).asks plain m.registry)
  have ran : (Exec.evaluateAll args : Exec ed.domain _).run m =
    (Expr.evaluateAll m.registry m.vars args, m) := rfl
  rw [run_bind, ran]
  cases vals : Expr.evaluateAll m.registry m.vars args with
  | error g =>
    intro f raised
    cases raised
    exact evaluated g vals
  | ok vs =>
    dsimp only
    rw [run_invoke]
    exact (called m.registry vs (Expr.length_evaluateAll vals)).map _

end Stops

end Exec

namespace Stmt

variable {P : Fault → Prop} {l : Limits}

theorem executeAll_stops {stmts : List Stmt}
    (each : ∀ s ∈ stmts, Exec.Stops P (s.execute l : Exec d Unit)) :
    Exec.Stops P (executeAll l stmts : Exec d Unit) := by
  induction stmts with
  | nil =>
    rw [executeAll]
    exact .pure ()
  | cons s rest ih =>
    obtain ⟨first, others⟩ := List.forall_mem_cons.mp each
    rw [executeAll]
    exact first.bind fun _ => ih others

/-- Every stray among the statements, or inside them, ends with a fault that satisfies `P`. -/
def StraysTo (d : Domain) (P : Fault → Prop) (stmts : List Stmt) : Prop :=
  ∀ s f, Within s stmts → s.Strays d f → P f

theorem StraysTo.own {s : Stmt} (h : StraysTo d P [s]) {f : Fault} (strays : s.Strays d f) : P f :=
  h s f (.here (List.mem_singleton_self s)) strays

theorem StraysTo.inner {s t : Stmt} (h : StraysTo d P [s]) (member : t ∈ s.inner) :
    StraysTo d P [t] := fun u f inside =>
  h u f (.deeper (List.mem_singleton_self s)
    (inside.mono fun _ same => List.mem_singleton.mp same ▸ member))

end Stmt

open Exec in
/-- A compiled statement fails for a name only where it strays, or a statement inside it. -/
theorem Editor.MakesStmt.stops {ed : Editor} {s : Stmt} (h : ed.MakesStmt s) {P : Fault → Prop}
    (plain : ∀ f : Fault, f.isNaming = false → P f) (strays : Stmt.StraysTo ed.domain P [s])
    (l : Limits) : Stops P (s.execute l : Exec ed.domain Unit) := by
  have enter (id : Value) {rest : Exec ed.domain Unit} (others : Stops P rest) :
      Stops P (do
        Exec.tick l
        Exec.atBlock id
        rest) :=
    (Stops.tick plain l).bind fun _ => (Stops.atBlock id).bind fun _ => others
  induction h with
  | @call spec known args length made id =>
    rw [Stmt.execute]
    have offered : ed.domain.offers spec.command args.length = true :=
      length ▸ (Domain.offers_block known).1
    refine enter id (Stops.call plain made fun r vals same => ?_)
    exact (Registry.raises_invoke (same ▸ offered)).mono plain
  | echo named id =>
    rw [Stmt.execute]
    refine enter id (Stops.call plain (List.forall_mem_singleton.mpr (.var named))
      fun r vals same => ?_)
    by_cases console : ed.domain = .math
    · have offered := Domain.offers_print_iff.mpr console
      exact (Registry.raises_invoke (same ▸ offered)).mono plain
    · unfold Registry.invoke Registry.respond
      rw [Domain.command?_print console]
      exact .of_fault (strays.own (.echo console _ id))
  | loop count _ id ih =>
    rw [Stmt.execute]
    have body := Stmt.executeAll_stops fun t member => ih t member (strays.inner member)
    exact enter id ((Stops.evaluate plain count).bind fun n =>
      (Stops.refuses plain (.asInt _ n)).bind fun _ => Stops.turns plain l body _)
  | count named first last size _ id ih =>
    rw [Stmt.execute]
    have body := Stmt.executeAll_stops fun t member => ih t member (strays.inner member)
    exact enter id ((Stops.countRange plain first last size).bind fun _ =>
      .getMachine fun _ => Stops.counting plain l _ _ _ body _ _)
  | @each var named items _ id ih =>
    rw [Stmt.execute]
    have body := Stmt.executeAll_stops fun t member => ih t member (strays.inner member)
    refine enter id (.getMachine fun m => .bind (.lift ?_) fun _ =>
      Stops.forEach plain l var body _)
    intro f raised
    by_cases arena : ed.domain = .combat
    · obtain ⟨items, listed⟩ := (Domain.exists_enemies_iff m.registry.shadow).mpr arena
      unfold Registry.collection at raised
      rw [listed] at raised
      cases raised
    · unfold Registry.collection at raised
      split at raised
      next => cases raised
      next =>
        cases raised
        exact strays.own (.each arena _ _ id)
  | branch tested _ _ id ihInner ihOther =>
    rw [Stmt.execute]
    have first := Stmt.executeAll_stops fun t member =>
      ihInner t member (strays.inner (List.mem_append_left _ member))
    have second := Stmt.executeAll_stops fun t member =>
      ihOther t member (strays.inner (List.mem_append_right _ member))
    refine enter id ((Stops.evaluate plain tested).bind fun v => ?_)
    split
    next => exact first
    next => exact second
  | assign named made id =>
    rw [Stmt.execute]
    exact enter id ((Stops.evaluate plain made).bind fun _ => Stops.assign plain _ _)

namespace Program

/-- In a compiled program every statement, however deep, names a command, queries and a list that
its world has, except for those that stray; and only those make a run fail for a name. -/
theorem compiled_named_iff {workspace : Value} {p : Program} {warnings : List String}
    (compiled : compileBlocks workspace d = .ok (.done p warnings)) :
    (∀ s : Stmt, s.Within p.statements → ∀ r : Registry d, s.Named r ↔ ∀ f, ¬s.Strays d f) ∧
      ∀ (l : Limits) (r : Registry d) (f : Fault), (p.finalMachine l r).1 = .error f →
        f.isNaming = true → ∃ s : Stmt, s.Within p.statements ∧ s.Strays d f := by
  obtain ⟨w, _, makes⟩ := compileBlocks_makes compiled
  refine ⟨fun s inside r => (makes.within inside).named_iff r, fun l r f failed naming => ?_⟩
  have plain (f : Fault) (h : f.isNaming = false) : f.isNaming = true →
      ∃ s, Stmt.Within s p.statements ∧ s.Strays d f := fun naming => by
    cases h.symm.trans naming
  have runs : Exec.Stops (fun f => f.isNaming = true →
      ∃ s, Stmt.Within s p.statements ∧ s.Strays d f) (Stmt.executeAll l p.statements : Exec d _) :=
    Stmt.executeAll_stops fun s member =>
      (makes s member).stops plain (fun t f inside strays _ =>
        ⟨t, inside.mono fun _ same => List.mem_singleton.mp same ▸ member, strays⟩) l
  exact runs { registry := r } f failed naming

/-- The loop over the enemies compiles in every world. -/
theorem forEachEnemy_compiled (d : Domain) :
    compileBlocks (.dict [("type", "for_each_enemy")]) d =
      .ok (.done ⟨[.each "enemy" "enemies" [] .null], 1⟩ []) := by
  have made : Block.chain ⟨d, []⟩ 0 (.dict [("type", "for_each_enemy")]) = fun n =>
      .ok ([.each "enemy" "enemies" [] .null], n + 1) := by
    unfold Block.chain Block.statement
    simp only [Block.body]
    rfl
  unfold compileBlocks Block.program
  have read : Workspace.ofValue (.dict [("type", "for_each_enemy")]) =
    .ok { blocks := [.dict [("type", "for_each_enemy")]] } := rfl
  rw [read]
  simp only [ok_bind, Block.allStatements, made]
  rfl

/-- In the arena the loop finds its list, and never fails for a name. -/
theorem compiled_named_iff_arena :
    let p : Program := ⟨[.each "enemy" "enemies" [] .null], 1⟩
    compileBlocks (.dict [("type", "for_each_enemy")]) .combat = .ok (.done p []) ∧
      (∀ r : Registry .combat, (Stmt.each "enemy" "enemies" [] .null).Named r) ∧
      ∀ (l : Limits) (r : Registry .combat) (f : Fault), (p.finalMachine l r).1 = .error f →
        f.isNaming = false := by
  intro p
  obtain ⟨named, runs⟩ := compiled_named_iff (forEachEnemy_compiled .combat)
  have inside : (Stmt.each "enemy" "enemies" [] .null).Within p.statements :=
    .here (List.mem_singleton_self _)
  refine ⟨forEachEnemy_compiled .combat, fun r => (named _ inside r).mpr ?_, fun l r f failed => ?_⟩
  · rintro f (_ | ⟨other⟩)
    exact other rfl
  · refine Bool.eq_false_iff.mpr fun naming => ?_
    obtain ⟨s, within, strays⟩ := runs l r f failed naming
    cases within with
    | here member =>
      cases List.mem_singleton.mp member
      cases strays with
      | each other => exact other rfl
    | deeper member deep =>
      cases List.mem_singleton.mp member
      cases deep with
      | here member | deeper member => cases member

/-- A robot that goes through the enemies compiles, and fails. -/
theorem not_named_robot :
    let p : Program := ⟨[.each "enemy" "enemies" [] .null], 1⟩
    let level : Robot.Level :=
      { header := { id := .number 1, name := "Row" }, goal := .position 4 0 false }
    compileBlocks (.dict [("type", "for_each_enemy")]) .robot = .ok (.done p []) ∧
      ∃ (r : Registry .robot) (f : Fault), Registry.create (d := .robot) level = .ok r ∧
        (∀ items, r.collection "enemies" ≠ .ok items) ∧ (p.finalMachine {} r).1 = .error f ∧
        f.message = "There is no list called 'enemies' in the robot world" := by
  intro p level
  let r : Registry .robot := { shadow := Robot.Shadow.initial level, maxActions := 1000 }
  have told : (match (p.finalMachine {} r).1 with | .ok _ => none | .error f => some f.message) =
      some "There is no list called 'enemies' in the robot world" := by decide +kernel
  cases ended : (p.finalMachine {} r).1 with
  | ok =>
    rw [ended] at told
    cases told
  | error f =>
    rw [ended] at told
    exact ⟨forEachEnemy_compiled .robot, r, f, rfl, nofun, ended, Option.some.inj told⟩

end Program

end PuzzleWorlds
