import PuzzleWorlds.Proofs.BlamedStatements
import PuzzleWorlds.Proofs.CompiledPrograms

/-! The blocks that a report can name. A compilation that stops, and a statement that is compiled,
name a block of the workspace, by whatever identifier it has, or no block. A run that a fault stops
names what one of its statements names. -/

namespace PuzzleWorlds

namespace Compiling

/-- Code that gives back what satisfies `Q`, or stops at a block whose identifier satisfies `I`,
unless it stops without a report. -/
def Points (I : Value → Prop) (Q : α → Prop) (x : Compiling α) : Prop :=
  (∀ n a n', x n = .ok (a, n') → Q a) ∧ ∀ n p id, x n = .error (.problem p id) → I id

namespace Points

variable {I J : Value → Prop} {Q : α → Prop} {R : β → Prop}

theorem pure {a : α} (h : Q a) : Points I Q (Pure.pure a) := by
  refine ⟨fun n b n' done => ?_, nofun⟩
  cases done
  exact h

theorem bind {x : Compiling α} {f : α → Compiling β} (first : Points I Q x)
    (second : ∀ a, Q a → Points I R (f a)) : Points I R (x >>= f) := by
  constructor
  · intro n b n' done
    obtain ⟨⟨a, m⟩, here, done⟩ := bind_eq_ok.mp done
    exact (second a (first.1 n a m here)).1 m b n' done
  · intro n p id failed
    obtain here | ⟨⟨a, n'⟩, here, failed⟩ := bind_eq_error.mp failed
    · exact first.2 n p id here
    · exact (second a (first.1 n a n' here)).2 n' p id failed

theorem map {x : Compiling α} {f : α → β} (h : Points I Q x) (keeps : ∀ a, Q a → R (f a)) :
    Points I R (f <$> x) := by
  rw [← bind_pure_comp]
  exact h.bind fun a holds => .pure (keeps a holds)

theorem stop {p : BlockProblem} {id : Value} (named : I id) : Points I Q (Compiling.stop p id) := by
  refine ⟨nofun, fun n p' id' failed => ?_⟩
  cases failed
  exact named

theorem ite {c : Prop} [Decidable c] {x y : Compiling α} (first : Points I Q x)
    (second : Points I Q y) : Points I Q (if c then x else y) := by
  split
  next => exact first
  next => exact second

theorem countBlock : Points I (fun _ => True) Compiling.countBlock :=
  ⟨fun _ _ _ _ => trivial, nofun⟩

theorem lift {x : Except Misfit α} : Points I (fun a => x = .ok a) (Compiling.lift x) := by
  cases x with
  | ok a =>
    refine ⟨fun n b n' done => ?_, nofun⟩
    cases done
    rfl
  | error m => exact ⟨nofun, nofun⟩

theorem textOf {v : Value} : Points I (fun _ => True) (Compiling.textOf v) :=
  ⟨fun _ _ _ _ => trivial, lift.2⟩

theorem mono {x : Compiling α} (h : Points I Q x) (weaker : ∀ id, I id → J id) : Points J Q x :=
  ⟨h.1, fun n p id failed => weaker id (h.2 n p id failed)⟩

theorem weaken {S : α → Prop} {x : Compiling α} (h : Points I Q x) (weaker : ∀ a, Q a → S a) :
    Points I S x := ⟨fun n a n' done => weaker a (h.1 n a n' done), h.2⟩

end Points

end Compiling

namespace Block

open Compiling

/-- The identifier of a block that is held, or of none. -/
def Names (block id : Value) : Prop := id = .null ∨ ∃ es, Holds block es ∧ id = BlockEntries.id es

variable {es : BlockEntries} {type name : String} {default : Option Value} {id : Value}

namespace Names

theorem self : Names (.dict es) (BlockEntries.id es) := .inr ⟨es, .self es, rfl⟩

theorem follows {next : Inside es} (after : es.next? = .ok (some next)) (h : Names next.1 id) :
    Names (.dict es) id :=
  h.imp_right fun ⟨inner, part, same⟩ => ⟨inner, .follows after part, same⟩

theorem plugged {child : Inside es} (into : es.plugged? name = .ok (some child))
    (h : Names child.1 id) : Names (.dict es) id :=
  h.imp_right fun ⟨inner, part, same⟩ => ⟨inner, .plugged into part, same⟩

end Names

/-- What compiles to something, or else names a block. -/
abbrev Told (block : Value) (x : Compiling α) : Prop := Points (Names block) (fun _ => True) x

theorem field_told : Told (.dict es) (field type es name default) := by
  refine Points.lift.bind fun given _ => ?_
  split
  next => exact .pure trivial
  next =>
    split
    next => exact .pure trivial
    next => exact .stop .self

theorem variableName_told (ed : Editor) (default : Option String) :
    Told (.dict es) (variableName ed type es default) := by
  refine field_told.bind fun v _ => ?_
  split
  next ref =>
    refine Points.lift.bind fun _ _ => ?_
    split
    next => exact .pure trivial
    next =>
      exact .ite (Points.textOf.bind fun _ _ => .pure trivial)
        (Points.textOf.bind fun _ _ => .stop .self)
  next => exact Points.textOf.bind fun _ _ => .ite (.pure trivial) (.stop .self)

mutual

theorem argument_told (ed : Editor) (depth : Nat) (type : String) (es : BlockEntries)
    (name : String) (default : Option Value) :
    Told (.dict es) (argument ed depth type es name default) := by
  unfold argument
  refine Points.lift.bind fun plugged into => ?_
  split
  next child inside =>
    exact .ite (.stop .self) ((expression_told ed (depth + 1) child).mono fun _ => .plugged into)
  next =>
    refine Points.lift.bind fun given _ => ?_
    split
    next => exact .pure trivial
    next =>
      split
      next => exact .pure trivial
      next => exact .stop .self
termination_by (sizeOf es, 0, 0)

theorem arguments_told (ed : Editor) (depth : Nat) (type : String) (es : BlockEntries) :
    (as : List BlockArg) → Told (.dict es) (arguments ed depth type es as)
  | [] => by
    rw [arguments]
    exact .pure trivial
  | a :: rest => by
    rw [arguments]
    exact (argument_told ed depth type es a.name _).bind fun _ _ =>
      (arguments_told ed depth type es rest).bind fun _ _ => .pure trivial
termination_by as => (sizeOf es, 1, as.length)

theorem expression_told (ed : Editor) (depth : Nat) (block : Value) :
    Told block (expression ed depth block) := by
  unfold expression
  split
  next es =>
    split
    next type _ =>
      refine Points.countBlock.bind fun _ _ => ?_
      have arg (name : String) (default : Option Value) :
          Told (.dict es) (argument ed depth type es name default) :=
        argument_told ed depth type es name default
      have read (name : String) (default : Option Value) {f : Value → String → Compiling Expr}
          (rest : ∀ v s, Told (.dict es) (f v s)) :
          Told (.dict es) (do
            let v ← field type es name default
            f v (← textOf v)) :=
        field_told.bind fun v _ => Points.textOf.bind fun s _ => rest v s
      have two (a b : Option Value) (node : Expr → Expr → Expr) : Told (.dict es) (do
            let l ← argument ed depth type es "A" a
            let r ← argument ed depth type es "B" b
            return node l r) :=
        (arg "A" a).bind fun _ _ => (arg "B" b).bind fun _ _ => .pure trivial
      dsimp only
      split
      next => exact field_told.bind fun _ _ => .pure trivial
      next => exact read _ _ fun _ _ => .pure trivial
      next => exact read _ _ fun _ _ => .pure trivial
      next => exact (variableName_told ed none).bind fun _ _ => .pure trivial
      next =>
        refine read _ _ fun v s => ?_
        split
        next => exact .stop .self
        next op _ => exact two _ _ (.binary op.symbol)
      next =>
        refine read _ _ fun v s => ?_
        split
        next => exact .stop .self
        next op _ => exact two _ _ (.compare op.symbol)
      next =>
        refine read _ _ fun v s => ?_
        split
        next => exact .stop .self
        next op _ => exact two _ _ (.compare op.symbol)
      next => exact read _ _ fun v s => .ite (two _ _ (.logic (lowerText s))) (.stop .self)
      next => exact (arg "BOOL" none).bind fun _ _ => .pure trivial
      next => exact (arg "UNIT" none).bind fun _ _ => read _ _ fun _ _ => .pure trivial
      next =>
        split
        next op _ => exact two _ _ (.binary op.symbol)
        next =>
          split
          next spec _ =>
            exact .ite ((arguments_told ed depth type es spec.args).bind fun _ _ => .pure trivial)
              (.stop .self)
          next => exact .stop .self
    next => exact .stop .self
  next => exact .stop (.inl rfl)
termination_by (sizeOf block, 2, 0)

end

/-- The statements, and those inside them, have identifiers that satisfy `I`. -/
def Marked (I : Value → Prop) (stmts : List Stmt) : Prop :=
  ∀ s ∈ Stmt.flattenAll stmts, I s.blockId

namespace Marked

variable {I J : Value → Prop} {body rest : List Stmt} {s : Stmt}

theorem nil : Marked I [] := List.forall_mem_nil _

theorem singleton (own : I s.blockId) (inner : Marked I s.inner) : Marked I [s] := by
  have flat : Stmt.flattenAll [s] = s :: Stmt.flattenAll s.inner := by
    rw [Stmt.flattenAll, Stmt.flatten_eq, Stmt.flattenAll, List.append_nil]
  rw [Marked, flat]
  exact List.forall_mem_cons.mpr ⟨own, inner⟩

theorem append (first : Marked I body) (second : Marked I rest) : Marked I (body ++ rest) := by
  rw [Marked, Stmt.flattenAll_append]
  exact fun s member => (List.mem_append.mp member).elim (first s) (second s)

theorem mono (h : Marked I body) (weaker : ∀ id, I id → J id) : Marked J body :=
  fun s member => weaker _ (h s member)

/-- Arms one after another, each in the other case of the one before. -/
theorem foldr {bs : List (Expr × List Stmt)} {otherwise : List Stmt} (own : I id)
    (each : ∀ b ∈ bs, Marked I b.2) (last : Marked I otherwise) :
    Marked I (bs.foldr (fun b rest => [.branch b.1 b.2 rest id]) otherwise) := by
  induction bs with
  | nil => exact last
  | cons b bs ih =>
    obtain ⟨first, others⟩ := List.forall_mem_cons.mp each
    exact singleton own (first.append (ih others))

end Marked

/-- Statements of the blocks that are held, or else one of these blocks is named. -/
abbrev Labelled (block : Value) (x : Compiling (List Stmt)) : Prop :=
  Points (Names block) (Marked (Names block)) x

theorem Labelled.inside {block outer : Value} {x : Compiling (List Stmt)} (h : Labelled block x)
    (weaker : ∀ id, Names block id → Names outer id) : Labelled outer x :=
  (h.mono weaker).weaken fun _ marked => marked.mono weaker

/-- A counting loop whose body is compiled by `stmts`. -/
theorem counting_labelled (ed : Editor) (es : BlockEntries) {stmts : Compiling (List Stmt)}
    (inner : Labelled (.dict es) stmts) (type default : String) :
    Labelled (.dict es) (do
      let given ← match ← Compiling.lift (BlockEntries.plugged? es "BY") with
        | some _ => Pure.pure true
        | none => Option.isSome <$> Compiling.lift (BlockEntries.field? es "BY")
      let step ← if given then some <$> argument ed 0 type es "BY" none else Pure.pure none
      let var ← variableName ed type es (some default)
      let start ← argument ed 0 type es "FROM" (some 0)
      let stop ← argument ed 0 type es "TO" none
      return [.count var start stop step (← stmts) (BlockEntries.id es)]) := by
  have rest (step : Option Expr) : Labelled (.dict es) (do
      let var ← variableName ed type es (some default)
      let start ← argument ed 0 type es "FROM" (some 0)
      let stop ← argument ed 0 type es "TO" none
      return [.count var start stop step (← stmts) (BlockEntries.id es)]) :=
    (variableName_told ed _).bind fun _ _ => (argument_told ed 0 type es "FROM" _).bind fun _ _ =>
      (argument_told ed 0 type es "TO" _).bind fun _ _ =>
        inner.bind fun _ marked => .pure (.singleton .self marked)
  have after (given : Bool) : Labelled (.dict es) (do
      let step ← if given then some <$> argument ed 0 type es "BY" none else Pure.pure none
      let var ← variableName ed type es (some default)
      let start ← argument ed 0 type es "FROM" (some 0)
      let stop ← argument ed 0 type es "TO" none
      return [.count var start stop step (← stmts) (BlockEntries.id es)]) := by
    cases given with
    | true =>
      have size : Told (.dict es) (some <$> argument ed 0 type es "BY" none) :=
        (argument_told ed 0 type es "BY" none).map fun _ _ => trivial
      exact size.bind fun step _ => rest step
    | false => exact rest none
  refine Points.lift.bind fun plugged _ => ?_
  split
  next => exact after true
  next =>
    have given : Told (.dict es) (Option.isSome <$> Compiling.lift (BlockEntries.field? es "BY")) :=
      Points.lift.map fun _ _ => trivial
    exact given.bind fun given _ => after given

mutual

theorem body_labelled (ed : Editor) (depth : Nat) (es : BlockEntries) (name : String) :
    Labelled (.dict es) (body ed depth es name) := by
  unfold body
  refine Points.lift.bind fun plugged into => ?_
  split
  next => exact .pure .nil
  next child inside =>
    exact .ite (.stop .self)
      (Labelled.inside (chain_labelled ed (depth + 1) child) fun _ => .plugged into)
termination_by (sizeOf es, 0, 0)

theorem branches_labelled (ed : Editor) (depth : Nat) (type : String) (es : BlockEntries) :
    (is : List Nat) → Points (Names (.dict es)) (fun bs => ∀ b ∈ bs, Marked (Names (.dict es)) b.2)
      (branches ed depth type es is)
  | [] => by
    rw [branches]
    exact .pure (List.forall_mem_nil _)
  | i :: rest => by
    rw [branches]
    exact (argument_told ed 0 type es _ none).bind fun _ _ =>
      (body_labelled ed depth es _).bind fun _ first =>
        (branches_labelled ed depth type es rest).bind fun _ others =>
          .pure (List.forall_mem_cons.mpr ⟨first, others⟩)
termination_by is => (sizeOf es, 1, is.length)

theorem statement_labelled (ed : Editor) (depth : Nat) (type : String) (es : BlockEntries) :
    Labelled (.dict es) (statement ed depth type es) := by
  unfold statement
  refine Points.countBlock.bind fun _ _ => ?_
  have arg (name : String) (default : Option Value) :
      Told (.dict es) (argument ed 0 type es name default) :=
    argument_told ed 0 type es name default
  have inner (name : String) : Labelled (.dict es) (body ed depth es name) :=
    body_labelled ed depth es name
  have flat {s : Stmt} (own : s.blockId = BlockEntries.id es) (none : s.inner = []) :
      Marked (Names (.dict es)) [s] :=
    .singleton (own ▸ .self) (none ▸ .nil)
  have repeated : Labelled (.dict es) (do
      let times ← argument ed 0 type es "TIMES" none
      return [.loop times (← body ed depth es "DO") (BlockEntries.id es)]) :=
    (arg "TIMES" none).bind fun _ _ => (inner "DO").bind fun _ marked =>
      .pure (.singleton .self marked)
  dsimp only
  split
  next => exact repeated
  next => exact repeated
  next => exact repeated
  next => exact counting_labelled ed es (inner "DO") _ _
  next => exact counting_labelled ed es (inner "DO") _ _
  next => exact counting_labelled ed es (inner "DO") _ _
  next =>
    exact (variableName_told ed _).bind fun _ _ => (inner "DO").bind fun _ marked =>
      .pure (.singleton .self marked)
  next =>
    exact (arg "CONDITION" none).bind fun _ _ => (inner "DO").bind fun _ first =>
      (inner "ELSE").bind fun _ second => .pure (.singleton .self (first.append second))
  next =>
    refine Points.lift.bind fun is _ => (branches_labelled ed depth _ es is).bind fun bs each => ?_
    have none : Points (Names (.dict es)) (fun _ => False)
        (stop .noCondition (BlockEntries.id es) : Compiling Unit) := .stop .self
    split
    next => exact none.bind fun _ => False.elim
    next => exact (inner "ELSE").bind fun _ last => .pure (.foldr .self each last)
  next =>
    exact (variableName_told ed _).bind fun _ _ => (arg "VALUE" _).bind fun _ _ =>
      .pure (flat rfl rfl)
  next =>
    exact (variableName_told ed _).bind fun _ _ => (arg "VALUE" _).bind fun _ _ =>
      .pure ((flat rfl rfl).append (flat rfl rfl))
  next =>
    split
    next spec _ =>
      exact (arguments_told ed 0 type es spec.args).bind fun _ _ => .pure (flat rfl rfl)
    next => exact .stop .self
termination_by (sizeOf es, 2, 0)

theorem chain_labelled (ed : Editor) (depth : Nat) (block : Value) :
    Labelled block (chain ed depth block) := by
  unfold chain
  cases block with
  | null | bool | int | float | text | list | tuple | record => exact .stop (.inl rfl)
  | dict es =>
    dsimp only
    split
    next type _ =>
      have rest (stmts : List Stmt) (marked : Marked (Names (.dict es)) stmts) :
          Labelled (.dict es) (do
            match ← Compiling.lift (BlockEntries.next? es) with
            | none => return stmts
            | some ⟨next, _⟩ => return stmts ++ (← chain ed depth next)) := by
        refine Points.lift.bind fun next after => ?_
        split
        next => exact .pure marked
        next block inside =>
          have others : Labelled (.dict es) (chain ed depth block) :=
            Labelled.inside (chain_labelled ed depth block) fun _ => .follows after
          exact others.bind fun _ all => .pure (marked.append all)
      exact .ite ((statement_labelled ed depth type es).bind rest)
        ((Points.pure (a := []) .nil).bind rest)
    next => exact .stop .self
termination_by (sizeOf block, 3, 0)

end

end Block

section Running

variable {d : Domain} {I : Value → Prop}

namespace Exec

/-- If the current block satisfies `I` before, so it does afterwards. -/
def Stays (I : Value → Prop) (x : Exec d α) : Prop := ∀ m, I m.blockId → I (x.run m).2.blockId

namespace Stays

theorem bind {x : Exec d α} {f : α → Exec d β} (first : Stays I x) (second : ∀ a, Stays I (f a)) :
    Stays I (x >>= f) := by
  intro m here
  rw [run_bind]
  have next := first m here
  split
  next a m' done =>
    rw [done] at next
    exact second a m' next
  next e m' done =>
    rw [done] at next
    exact next

theorem pure (a : α) : Stays I (Pure.pure a : Exec d α) := fun _ here => here

theorem throw (f : Fault) : Stays I (MonadExcept.throw f : Exec d α) := fun _ here => here

theorem get : Stays I (MonadState.get : Exec d (Machine d)) := fun _ here => here

theorem lift (x : Except Fault α) : Stays I (lift x : Exec d α) := fun _ here => here

theorem evaluate (e : Expr) : Stays I (evaluate e : Exec d Value) := fun _ here => here

theorem evaluateAll (es : List Expr) : Stays I (evaluateAll es : Exec d (List Value)) :=
  fun _ here => here

theorem invoke (name : String) (args : List Value) : Stays I (invoke name args : Exec d Unit) := by
  intro m here
  rw [run_invoke]
  exact here

theorem tick (l : Limits) : Stays I (tick l : Exec d Unit) := by
  intro m here
  rw [run_tick]
  exact here

theorem assign (name v : Value) : Stays I (assign name v : Exec d Unit) := by
  intro m here
  unfold Exec.assign
  split
  next => exact here
  next => exact here

theorem ordered (c : Value.Comparison) (a b : Value) : Stays I (ordered c a b : Exec d Bool) := by
  intro m here
  unfold Exec.ordered
  split
  next => exact here
  next => exact here

theorem sum (a b : Value) : Stays I (sum a b : Exec d Value) := by
  intro m here
  unfold Exec.sum
  split
  next => exact here
  next => exact here

theorem countRange (start stop : Expr) (step : Option Expr) :
    Stays I (countRange start stop step : Exec d (Value × Value × Value)) := by
  have size : Stays I (stepOf step : Exec d Value) := by
    cases step with
    | none => exact pure 1
    | some e => exact (evaluate e).bind fun _ => (lift _).bind fun _ => pure _
  refine (evaluate _).bind fun _ => (lift _).bind fun _ => (evaluate _).bind fun _ =>
    (lift _).bind fun _ => size.bind fun _ => ?_
  split
  next => exact (throw _).bind fun _ => (ordered _ _ _).bind fun _ => pure _
  next => exact (ordered _ _ _).bind fun _ => pure _

/-- What is entered becomes the current block, unless it has no identifier. -/
theorem enter {l : Limits} {id : Value} (own : I id) : Stays I (Task.enter l id : Exec d Unit) := by
  refine (tick l).bind fun _ m here => ?_
  unfold atBlock
  split
  next => exact here
  next => exact own

end Stays

end Exec

open Exec in
theorem Task.takeApart_stays {l : Limits} {t : Task} (own : ∀ s ∈ t.flatten, I s.blockId) :
    Stays I (t.takeApart l : Exec d (List Task)) := by
  have turn (var stop step value : Value) :
      Stays I (enterTurn l var stop step value : Exec d Bool) := by
    refine ((Stays.ordered _ _ _).bind fun _ => .ordered _ _ _).bind fun go => ?_
    cases go with
    | true => exact (Stays.tick l).bind fun _ => (Stays.assign var value).bind fun _ => .pure _
    | false => exact .pure _
  cases t with
  | stmt s =>
    have own : I s.blockId := own s (by simp [Task.flatten, Stmt.flatten_eq])
    cases s with
    | call name args id =>
      exact (Stays.enter own).bind fun _ => (Stays.evaluateAll args).bind fun _ =>
        (Stays.invoke name _).bind fun _ => .pure _
    | loop times body id =>
      exact (Stays.enter own).bind fun _ => (Stays.evaluate times).bind fun _ =>
        (Stays.lift _).bind fun _ => .pure _
    | count var start stop step body id =>
      exact (Stays.enter own).bind fun _ => (Stays.countRange _ _ _).bind fun _ => .pure _
    | each var collection body id =>
      exact (Stays.enter own).bind fun _ => Stays.get.bind fun _ => (Stays.lift _).bind fun _ =>
        .pure _
    | branch condition body otherwise id =>
      exact (Stays.enter own).bind fun _ => (Stays.evaluate condition).bind fun _ => .pure _
    | assign name value id =>
      exact (Stays.enter own).bind fun _ => (Stays.evaluate value).bind fun _ =>
        (Stays.assign name _).bind fun _ => .pure _
    | unknown kind => exact (Stays.tick l).bind fun _ => .throw _
  | turns n body =>
    cases n with
    | zero => exact .pure _
    | succ n => exact (Stays.tick l).bind fun _ => .pure _
  | each var items body =>
    cases items with
    | nil => exact .pure _
    | cons item rest =>
      exact (Stays.tick l).bind fun _ => (Stays.assign var item).bind fun _ => .pure _
  | count var stop step value body =>
    refine (turn var stop step value).bind fun go => ?_
    cases go with
    | true => exact .pure _
    | false => exact .pure _
  | moveOn var stop step value body => exact (Stays.sum value step).bind fun _ => .pure _

/-- Wherever tasks come to, the current block is that of one of their statements, or the one before
them. -/
theorem Runs.blockId {l : Limits} {ts : List Task} {m n : Machine d} {x : Except Fault Unit}
    (ran : Runs l ts m x n) (here : I m.blockId) (own : ∀ s ∈ Task.flattenAll ts, I s.blockId) :
    I n.blockId := by
  induction ran with
  | done => exact here
  | @fails t ts m n f failed =>
    have stays : Exec.Stays (d := d) I (t.takeApart l) :=
      Task.takeApart_stays fun s member => own s (List.mem_append_left _ member)
    have first := stays m here
    rwa [failed] at first
  | @goesOn t ts parts m m' n x taken _ ih =>
    have stays : Exec.Stays (d := d) I (t.takeApart l) :=
      Task.takeApart_stays fun s member => own s (List.mem_append_left _ member)
    have first := stays m here
    rw [taken] at first
    obtain ⟨a, step⟩ := Task.step_of_takeApart taken
    refine ih first fun s member => ?_
    rw [Task.flattenAll_append] at member
    obtain inside | later := List.mem_append.mp member
    · exact own s (List.mem_append_left _ (Task.flattenAll_parts step inside))
    · exact own s (List.mem_append_right _ later)

end Running

section Workspaces

variable {workspace : Value} {d : Domain}

/-- The identifier of a block of a workspace, or of none. -/
def Workspace.Names (workspace id : Value) : Prop :=
  id = .null ∨ ∃ w, Workspace.ofValue workspace = .ok w ∧ ∃ top ∈ w.blocks,
    ∃ es, Block.Holds top es ∧ id = BlockEntries.id es

end Workspaces

end PuzzleWorlds
