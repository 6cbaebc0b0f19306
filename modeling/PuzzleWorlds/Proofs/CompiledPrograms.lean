import PuzzleWorlds.Block.Compile
import PuzzleWorlds.Proofs.Payload

/-! What a compilation of blocks leads to. A program follows a grammar: commands and queries come
from the block types of the world, with an argument for each of theirs; the other forms are the same
in every world, the echo of an assignment and the loop over the enemies among them. Without a
program there is a report on the block at fault, unless a block has a part of a wrong kind where its
shape is taken for granted. -/

namespace PuzzleWorlds

namespace Compiling

/-- What a compilation gives back satisfies `Q`, and a misfit that stops it satisfies `P`. -/
def Leads (P : Misfit → Prop) (Q : α → Prop) (x : Compiling α) : Prop :=
  (∀ n a n', x n = .ok (a, n') → Q a) ∧ ∀ n m, x n = .error (.misfit m) → P m

namespace Leads

variable {P P' : Misfit → Prop} {Q : α → Prop} {R : β → Prop}

theorem pure {a : α} (h : Q a) : Leads P Q (Pure.pure a) := by
  refine ⟨fun n b n' done => ?_, nofun⟩
  cases done
  exact h

theorem bind {x : Compiling α} {f : α → Compiling β} (first : Leads P Q x)
    (second : ∀ a, Q a → Leads P R (f a)) : Leads P R (x >>= f) := by
  constructor
  · intro n b n' done
    obtain ⟨⟨a, m⟩, here, done⟩ := bind_eq_ok.mp done
    exact (second a (first.1 n a m here)).1 m b n' done
  · intro n m failed
    obtain here | ⟨⟨a, n'⟩, here, failed⟩ := bind_eq_error.mp failed
    · exact first.2 n m here
    · exact (second a (first.1 n a n' here)).2 n' m failed

theorem map {x : Compiling α} {f : α → β} (h : Leads P Q x) (keeps : ∀ a, Q a → R (f a)) :
    Leads P R (f <$> x) := by
  rw [← bind_pure_comp]
  exact h.bind fun a holds => .pure (keeps a holds)

theorem ite {c : Prop} [Decidable c] {x y : Compiling α} (first : Leads P Q x)
    (second : Leads P Q y) : Leads P Q (if c then x else y) := by
  split
  next => exact first
  next => exact second

theorem stop (p : BlockProblem) (id : Value) : Leads P Q (Compiling.stop p id) := ⟨nofun, nofun⟩

theorem countBlock : Leads P (fun _ => True) Compiling.countBlock :=
  ⟨fun _ _ _ _ => trivial, nofun⟩

theorem lift {x : Except Misfit α} (failed : ∀ m, x = .error m → P m) :
    Leads P (fun a => x = .ok a) (Compiling.lift x) := by
  cases x with
  | ok a =>
    refine ⟨fun n b n' done => ?_, nofun⟩
    cases done
    rfl
  | error m =>
    refine ⟨nofun, fun n m' raised => ?_⟩
    cases raised
    exact failed m rfl

theorem mono {x : Compiling α} (h : Leads P Q x) (weaker : ∀ m, P m → P' m) : Leads P' Q x :=
  ⟨h.1, fun n m raised => weaker m (h.2 n m raised)⟩

theorem textOf {v : Value} (long : v.writable = false → P .unwritable) :
    Leads P (fun _ => True) (Compiling.textOf v) := by
  unfold Compiling.textOf
  cases written : v.writable with
  | true => exact ⟨fun _ _ _ _ => trivial, nofun⟩
  | false =>
    refine ⟨nofun, fun n m raised => ?_⟩
    cases raised
    exact long written

end Leads

end Compiling

namespace Domain

/-- The arguments and fields that the block types of every world have. -/
def genericArguments : List String :=
  ["TIMES", "BY", "FROM", "TO", "CONDITION", "VALUE", "A", "B", "UNIT", "VAR", "NUM", "TEXT",
    "BOOL", "OP", "ATTR"]

/-- A name by which some block type of the world has an argument. -/
inductive ArgumentName (d : Domain) : String → Prop
  | generic {name : String} (member : name ∈ genericArguments) : d.ArgumentName name
  | condition (i : Nat) : d.ArgumentName s!"IF{natText i}"
  | command {spec : BlockSpec} (known : spec ∈ d.blocks) {a : BlockArg} (member : a ∈ spec.args) :
    d.ArgumentName a.name

end Domain

theorem Value.not_writable_dict {es : List (String × Value)} {key : String}
    (h : (BlockEntries.get es key).writable = false) : (dict es).writable = false := by
  induction es with
  | nil => cases h
  | cons e rest ih =>
    obtain ⟨name, v⟩ := e
    rw [writable, writableEntries, Bool.and_eq_false_iff]
    unfold BlockEntries.get lookup at h
    rw [List.find?_cons] at h
    split at h
    next => exact .inl h
    next => exact .inr (ih h)

namespace BlockEntries

variable {es : BlockEntries} {key : String}

theorem lookup_of_find? {v : Inside es} (found : es.find? key = some v) :
    Value.lookup es key = some v.1 := by
  unfold find? at found
  split at found
  next here =>
    cases found
    exact here
  next => cases found

theorem lookup_of_get (counts : (es.get key).truthy = true) :
    Value.lookup es key = some (es.get key) := by
  unfold get at counts ⊢
  cases here : Value.lookup es key with
  | none =>
    rw [here] at counts
    cases counts
  | some v => rfl

/-- What must be a dictionary and is none. -/
theorem parts?_eq_error {v : Inside es} {m : Misfit} (failed : es.parts? v = .error m) :
    v.1.truthy = true ∧ v.1.entries? = none ∧ m = .noAttribute v.1.typeName "get" := by
  unfold parts? at failed
  split at failed
  next => cases failed
  next counts =>
    rw [Bool.not_eq_true, Bool.not_eq_false'] at counts
    refine ⟨counts, ?_⟩
    obtain ⟨v, h⟩ := v
    cases v <;> cases failed <;> exact ⟨rfl, rfl⟩

end BlockEntries

namespace Block

/-- The fields that are read as a text. -/
def textFields : List String := ["VAR", "TEXT", "BOOL", "OP", "ATTR"]

/-- A part of a block of a wrong kind, and what it leads to. -/
inductive Flaw (d : Domain) (es : BlockEntries) : Misfit → Prop
  /-- What follows, or what is plugged in, is no dictionary. -/
  | notEntries {key : String} (outer : key = "next" ∨ key = "inputs") {v : Value}
    (given : Value.lookup es key = some v) (counts : v.truthy = true)
    (other : v.entries? = none) : Flaw d es (.noAttribute v.typeName "get")
  /-- Names are looked for in fields, or in inputs, that hold none. -/
  | notNames {key : String} (outer : key = "fields" ∨ key = "inputs") {v : Value}
    (given : Value.lookup es key = some v) (counts : v.truthy = true) (other : v.entries? = none)
    (notText : ∀ s, v ≠ .text s) (notList : ∀ l, v ≠ .list l) :
    Flaw d es (.notIterable v.typeName)
  /-- The fields are a text in which the name of an argument occurs. -/
  | fieldsText {s : String} (given : Value.lookup es "fields" = some (.text s)) {name : String}
    (asked : d.ArgumentName name) (occurs : s.contains name = true) : Flaw d es (.notAnIndex "str")
  /-- The fields are a list with the name of an argument. -/
  | fieldsList {l : List Value} (given : Value.lookup es "fields" = some (.list l)) {name : String}
    (asked : d.ArgumentName name) (occurs : l.any (fun v => Value.same v (.text name)) = true) :
    Flaw d es (.notAnIndex "str")
  /-- A variable is referred to by what cannot be a key. -/
  | reference {ref : List (String × Value)} (given : es.field? "VAR" = .ok (some (.dict ref)))
    {m : Misfit} (unhashable : (BlockEntries.id ref).keyed = .error m) : Flaw d es m
  /-- A field that is read as a text has a whole number with too many digits. -/
  | unwritable {name : String} (read : name ∈ textFields) {v : Value}
    (given : es.field? name = .ok (some v)) (long : v.writable = false) : Flaw d es .unwritable

/-- A block among those that follow a block or are plugged into it, however deep. -/
inductive Holds : Value → BlockEntries → Prop
  | self (es : BlockEntries) : Holds (.dict es) es
  | follows {es inner : BlockEntries} {next : Inside es} (after : es.next? = .ok (some next))
    (part : Holds next.1 inner) : Holds (.dict es) inner
  | plugged {es inner : BlockEntries} {name : String} {child : Inside es}
    (into : es.plugged? name = .ok (some child)) (part : Holds child.1 inner) :
    Holds (.dict es) inner

/-- A block, or another that it holds, has a flaw. -/
def Flawed (d : Domain) (block : Value) (m : Misfit) : Prop :=
  ∃ es, Holds block es ∧ Flaw d es m

namespace Flawed

variable {d : Domain} {es : BlockEntries} {m : Misfit}

theorem self (h : Flaw d es m) : Flawed d (.dict es) m := ⟨es, .self es, h⟩

theorem follows {next : Inside es} (after : es.next? = .ok (some next))
    (h : Flawed d next.1 m) : Flawed d (.dict es) m := by
  obtain ⟨inner, part, flaw⟩ := h
  exact ⟨inner, .follows after part, flaw⟩

theorem plugged {name : String} {child : Inside es} (into : es.plugged? name = .ok (some child))
    (h : Flawed d child.1 m) : Flawed d (.dict es) m := by
  obtain ⟨inner, part, flaw⟩ := h
  exact ⟨inner, .plugged into part, flaw⟩

end Flawed

namespace Flaw

variable {d : Domain} {es : BlockEntries} {m : Misfit} {name : String}

theorem of_inner {outer k : String} (known : outer = "next" ∨ outer = "inputs")
    (failed : es.inner? outer k = .error m) : Flaw d es m := by
  unfold BlockEntries.inner? at failed
  split at failed
  next => cases failed
  next v found =>
    obtain failed | ⟨p, _, failed⟩ := bind_eq_error.mp failed
    · obtain ⟨counts, other, rfl⟩ := BlockEntries.parts?_eq_error failed
      exact .notEntries known (BlockEntries.lookup_of_find? found) counts other
    · split at failed
      next => cases failed
      next =>
        split at failed
        next => cases failed
        next => cases failed

theorem of_next (failed : es.next? = .error m) : Flaw d es m := by
  obtain failed | ⟨v, _, failed⟩ := bind_eq_error.mp failed
  · exact of_inner (.inl rfl) failed
  · split at failed
    next => cases failed
    next => cases failed

theorem of_plugged (failed : es.plugged? name = .error m) : Flaw d es m := by
  obtain failed | ⟨v, _, failed⟩ := bind_eq_error.mp failed
  · exact of_inner (.inr rfl) failed
  · split at failed
    next => cases failed
    next => cases failed

theorem of_field (asked : d.ArgumentName name) (failed : es.field? name = .error m) :
    Flaw d es m := by
  unfold BlockEntries.field? at failed
  dsimp only at failed
  cases counts : (es.get "fields").truthy with
  | false =>
    rw [counts] at failed
    cases failed
  | true =>
    have given := BlockEntries.lookup_of_get counts
    rw [counts, Bool.not_true, if_neg Bool.false_ne_true] at failed
    generalize es.get "fields" = fields at given counts failed
    cases fields with
    | dict l | record l => cases failed
    | null => cases counts
    | text s =>
      dsimp only at failed
      split at failed
      next occurs =>
        cases failed
        exact .fieldsText given asked occurs
      next => cases failed
    | list l =>
      dsimp only at failed
      split at failed
      next occurs =>
        cases failed
        exact .fieldsList given asked occurs
      next => cases failed
    | bool | int | float | tuple =>
      cases failed
      exact .notNames (.inl rfl) given counts rfl nofun nofun

theorem of_conditions (failed : es.conditions = .error m) : Flaw d es m := by
  unfold BlockEntries.conditions at failed
  dsimp only at failed
  cases counts : (es.get "inputs").truthy with
  | false =>
    rw [counts] at failed
    cases failed
  | true =>
    have given := BlockEntries.lookup_of_get counts
    rw [counts, Bool.not_true, if_neg Bool.false_ne_true] at failed
    generalize es.get "inputs" = inputs at given counts failed
    cases inputs with
    | dict | record | text | list => cases failed
    | null => cases counts
    | bool | int | float | tuple =>
      cases failed
      exact .notNames (.inr rfl) given counts rfl nofun nofun

end Flaw

end Block

namespace Editor

/-- A variable is named by a text, or by what the workspace calls it. -/
inductive Names (ed : Editor) : Value → Prop
  | text (s : String) : ed.Names (.text s)
  | listed {v : Value × Value} (member : v ∈ ed.names) : ed.Names v.2

/-- The expressions that a compilation makes. -/
inductive MakesExpr (ed : Editor) : Expr → Prop
  | literal (v : Value) : ed.MakesExpr (.literal v)
  | var {name : Value} (named : ed.Names name) : ed.MakesExpr (.var name)
  | binary (op : Operator) {a b : Expr} (left : ed.MakesExpr a) (right : ed.MakesExpr b) :
    ed.MakesExpr (.binary op.symbol a b)
  | compare (op : Value.Comparison) {a b : Expr} (left : ed.MakesExpr a)
    (right : ed.MakesExpr b) : ed.MakesExpr (.compare op.symbol a b)
  | logic (op : String) {a b : Expr} (left : ed.MakesExpr a) (right : ed.MakesExpr b) :
    ed.MakesExpr (.logic op a b)
  | not {a : Expr} (operand : ed.MakesExpr a) : ed.MakesExpr (.not a)
  | query {spec : BlockSpec} (known : spec ∈ ed.domain.blocks) (asks : spec.query = true)
    {args : List Expr} (length : args.length = spec.args.length)
    (made : ∀ a ∈ args, ed.MakesExpr a) : ed.MakesExpr (.query spec.command args)
  | field {target : Expr} (made : ed.MakesExpr target) (name : String) :
    ed.MakesExpr (.field target name)

/-- The statements that a compilation makes. The echo prints a variable that was just assigned. -/
inductive MakesStmt (ed : Editor) : Stmt → Prop
  | call {spec : BlockSpec} (known : spec ∈ ed.domain.blocks) {args : List Expr}
    (length : args.length = spec.args.length) (made : ∀ a ∈ args, ed.MakesExpr a) (id : Value) :
    ed.MakesStmt (.call spec.command args id)
  | echo {name : Value} (named : ed.Names name) (id : Value) :
    ed.MakesStmt (.call "print_value" [.var name] id)
  | loop {times : Expr} (count : ed.MakesExpr times) {body : List Stmt}
    (inner : ∀ s ∈ body, ed.MakesStmt s) (id : Value) : ed.MakesStmt (.loop times body id)
  | count {var : Value} (named : ed.Names var) {start stop : Expr} (first : ed.MakesExpr start)
    (last : ed.MakesExpr stop) {step : Option Expr} (size : ∀ e ∈ step, ed.MakesExpr e)
    {body : List Stmt} (inner : ∀ s ∈ body, ed.MakesStmt s) (id : Value) :
    ed.MakesStmt (.count var start stop step body id)
  | each {var : Value} (named : ed.Names var) {body : List Stmt}
    (inner : ∀ s ∈ body, ed.MakesStmt s) (id : Value) : ed.MakesStmt (.each var "enemies" body id)
  | branch {condition : Expr} (tested : ed.MakesExpr condition) {body otherwise : List Stmt}
    (inner : ∀ s ∈ body, ed.MakesStmt s) (other : ∀ s ∈ otherwise, ed.MakesStmt s) (id : Value) :
    ed.MakesStmt (.branch condition body otherwise id)
  | assign {name : Value} (named : ed.Names name) {value : Expr} (made : ed.MakesExpr value)
    (id : Value) : ed.MakesStmt (.assign name value id)

/-- A list of statements that a compilation makes. -/
def Makes (ed : Editor) (stmts : List Stmt) : Prop := ∀ s ∈ stmts, ed.MakesStmt s

variable {ed : Editor} {s : Stmt}

theorem Makes.nil : ed.Makes [] := List.forall_mem_nil _

theorem Makes.singleton (h : ed.MakesStmt s) : ed.Makes [s] := List.forall_mem_singleton.mpr h

theorem Makes.cons {rest : List Stmt} (first : ed.MakesStmt s) (others : ed.Makes rest) :
    ed.Makes (s :: rest) := List.forall_mem_cons.mpr ⟨first, others⟩

theorem Makes.append {body rest : List Stmt} (first : ed.Makes body) (second : ed.Makes rest) :
    ed.Makes (body ++ rest) := fun s member =>
  (List.mem_append.mp member).elim (first s) (second s)

end Editor

namespace Block

open Compiling Editor

variable {d : Domain} {es : BlockEntries} {type name : String} {default : Option Value}

theorem mem_of_blockSpec? {spec : BlockSpec} (found : d.blockSpec? type = some spec) :
    spec ∈ d.blocks := List.mem_of_find?_eq_some found

theorem generic_of_textField : ∀ name ∈ textFields, name ∈ Domain.genericArguments := by decide

theorem field_leads (asked : d.ArgumentName name) :
    Leads (Flaw d es) (fun v => es.field? name = .ok (some v) ∨ default = some v)
      (field type es name default) := by
  refine (Leads.lift fun m => Flaw.of_field asked).bind fun given read => ?_
  cases given with
  | some v => exact .pure (.inl read)
  | none =>
    cases default with
    | some v => exact .pure (.inr rfl)
    | none => exact .stop _ _

/-- A field that is read as a text, whose default can be written. -/
theorem textField_leads (known : name ∈ textFields) (text : Option String) {P : Misfit → Prop}
    (own : ∀ {m}, Flaw d es m → P m) {R : β → Prop} {f : Value → String → Compiling β}
    (rest : ∀ v s, Leads P R (f v s)) :
    Leads P R (do
      let v ← field type es name (text.map .text)
      f v (← textOf v)) := by
  have asked : d.ArgumentName name := .generic (generic_of_textField name known)
  refine ((field_leads asked).mono fun _ => own).bind fun v read =>
    (Leads.textOf fun long => own ?_).bind fun s _ => rest v s
  obtain given | default := read
  · exact .unwritable known given long
  · obtain ⟨s, _, rfl⟩ := Option.map_eq_some_iff.mp default
    cases long

/-- The variable that a block names. -/
theorem variableName_leads (ed : Editor) (type : String) (es : BlockEntries)
    (default : Option String) :
    Leads (Flaw ed.domain es) ed.Names (variableName ed type es default) := by
  have known : "VAR" ∈ textFields := List.mem_cons_self
  refine (field_leads (.generic (generic_of_textField _ known))).bind fun v read => ?_
  have long (h : v.writable = false) : Flaw ed.domain es .unwritable := by
    obtain given | default := read
    · exact .unwritable known given h
    · obtain ⟨s, _, rfl⟩ := Option.map_eq_some_iff.mp default
      cases h
  split
  next ref =>
    have given : es.field? "VAR" = .ok (some (.dict ref)) := by
      obtain given | default := read
      · exact given
      · obtain ⟨s, _, same⟩ := Option.map_eq_some_iff.mp default
        cases same
    have unwritten {key : String} (h : (BlockEntries.get ref key).writable = false) :
        Flaw ed.domain es .unwritable := long (Value.not_writable_dict h)
    refine (Leads.lift fun m unhashable => .reference given unhashable).bind fun _ _ => ?_
    split
    next name found =>
      obtain ⟨entry, here, rfl⟩ := Option.map_eq_some_iff.mp found
      exact .pure (.listed (List.mem_of_find?_eq_some here))
    next =>
      refine .ite ((Leads.textOf unwritten).bind fun _ _ => .pure (.text _)) ?_
      exact (Leads.textOf unwritten).bind fun _ _ => .stop _ _
  next =>
    exact (Leads.textOf long).bind fun _ _ => .ite (.pure (.text _)) (.stop _ _)

theorem plugged?_leads (name : String) :
    Leads (Flawed d (.dict es)) (fun child => es.plugged? name = .ok child)
      (Compiling.lift (es.plugged? name)) :=
  .lift fun _ failed => .self (.of_plugged failed)

mutual

theorem argument_leads (ed : Editor) (depth : Nat) (type : String) (es : BlockEntries)
    (name : String) (default : Option Value) (asked : ed.domain.ArgumentName name) :
    Leads (Flawed ed.domain (.dict es)) ed.MakesExpr
      (argument ed depth type es name default) := by
  unfold argument
  refine (plugged?_leads name).bind fun plugged into => ?_
  split
  next child inside =>
    split
    next => exact .stop _ _
    next => exact (expression_leads ed (depth + 1) child).mono fun _ => .plugged into
  next =>
    refine (Leads.lift fun m failed => .self (.of_field asked failed)).bind fun given _ => ?_
    split
    next => exact .pure (.literal _)
    next =>
      split
      next => exact .pure (.literal _)
      next => exact .stop _ _
termination_by (sizeOf es, 0, 0)

/-- There is an argument for each one that the block has. -/
theorem arguments_leads (ed : Editor) (depth : Nat) (type : String) (es : BlockEntries) :
    (as : List BlockArg) → (∀ a ∈ as, ed.domain.ArgumentName a.name) →
    Leads (Flawed ed.domain (.dict es))
      (fun args => args.length = as.length ∧ ∀ a ∈ args, ed.MakesExpr a)
      (arguments ed depth type es as)
  | [], _ => by
    rw [arguments]
    exact .pure ⟨rfl, List.forall_mem_nil _⟩
  | a :: rest, asked => by
    rw [arguments]
    obtain ⟨first, others⟩ := List.forall_mem_cons.mp asked
    exact (argument_leads ed depth type es a.name _ first).bind fun e made =>
      (arguments_leads ed depth type es rest others).bind fun es all =>
        .pure ⟨congrArg (· + 1) all.1, List.forall_mem_cons.mpr ⟨made, all.2⟩⟩
termination_by as => (sizeOf es, 1, as.length)

theorem expression_leads (ed : Editor) (depth : Nat) (block : Value) :
    Leads (Flawed ed.domain block) ed.MakesExpr (expression ed depth block) := by
  unfold expression
  split
  next es =>
    split
    next type _ =>
      refine Leads.countBlock.bind fun _ _ => ?_
      have arg (name : String) (default : Option Value) (known : name ∈ Domain.genericArguments) :
          Leads (Flawed ed.domain (.dict es)) ed.MakesExpr
            (argument ed depth type es name default) :=
        argument_leads ed depth type es name default (.generic known)
      have own {α : Type} {R : α → Prop} {x : Compiling α} (h : Leads (Flaw ed.domain es) R x) :
          Leads (Flawed ed.domain (.dict es)) R x := h.mono fun _ => .self
      have two (a b : Option Value) (node : Expr → Expr → Expr)
          (makes : ∀ l r, ed.MakesExpr l → ed.MakesExpr r → ed.MakesExpr (node l r)) :
          Leads (Flawed ed.domain (.dict es)) ed.MakesExpr (do
            let l ← argument ed depth type es "A" a
            let r ← argument ed depth type es "B" b
            return node l r) :=
        (arg "A" a (by decide)).bind fun l first => (arg "B" b (by decide)).bind fun r second =>
          .pure (makes l r first second)
      have operation (op : Operator) (a b : Option Value) := two a b (.binary op.symbol)
        fun _ _ => .binary op
      have comparison (op : Value.Comparison) := two none none (.compare op.symbol)
        fun _ _ => .compare op
      dsimp only
      split
      next =>
        exact (own (field_leads (.generic (by decide)))).bind fun _ _ => .pure (.literal _)
      next =>
        exact textField_leads (by decide) (some "") Flawed.self fun _ _ => .pure (.literal _)
      next =>
        exact textField_leads (by decide) none Flawed.self fun _ _ => .pure (.literal _)
      next =>
        exact (own (variableName_leads ed _ es none)).bind fun name named => .pure (.var named)
      next =>
        refine textField_leads (by decide) (some "ADD") Flawed.self fun v s => ?_
        split
        next => exact .stop _ _
        next op _ => exact operation op _ _
      next =>
        refine textField_leads (by decide) (some "EQ") Flawed.self fun v s => ?_
        split
        next => exact .stop _ _
        next op _ => exact comparison op
      next =>
        refine textField_leads (by decide) (some "EQ") Flawed.self fun v s => ?_
        split
        next => exact .stop _ _
        next op _ => exact comparison op
      next =>
        refine textField_leads (by decide) (some "AND") Flawed.self fun v s => ?_
        exact .ite (two none none _ fun _ _ => .logic _) (.stop _ _)
      next => exact (arg "BOOL" none (by decide)).bind fun e made => .pure (.not made)
      next =>
        exact (arg "UNIT" none (by decide)).bind fun e made =>
          textField_leads (by decide) none Flawed.self fun v name => .pure (.field made name)
      next =>
        split
        next op _ => exact operation op _ _
        next =>
          split
          next spec found =>
            have known := mem_of_blockSpec? found
            split
            next asks =>
              exact (arguments_leads ed depth type es spec.args fun a => .command known).bind
                fun args made => .pure (.query known asks made.1 made.2)
            next => exact .stop _ _
          next => exact .stop _ _
    next => exact .stop _ _
  next => exact .stop _ _
termination_by (sizeOf block, 2, 0)

end

/-- A counting loop whose body is compiled by `stmts`. -/
theorem counting_leads (ed : Editor) (es : BlockEntries) {stmts : Compiling (List Stmt)}
    (inner : Leads (Flawed ed.domain (.dict es)) ed.Makes stmts) (type default : String) :
    Leads (Flawed ed.domain (.dict es)) ed.Makes (do
      let given ← match ← Compiling.lift (BlockEntries.plugged? es "BY") with
        | some _ => Pure.pure true
        | none => Option.isSome <$> Compiling.lift (BlockEntries.field? es "BY")
      let step ← if given then some <$> argument ed 0 type es "BY" none else Pure.pure none
      let var ← variableName ed type es (some default)
      let start ← argument ed 0 type es "FROM" (some 0)
      let stop ← argument ed 0 type es "TO" none
      return [.count var start stop step (← stmts) (BlockEntries.id es)]) := by
  have arg (name : String) (default : Option Value) (known : name ∈ Domain.genericArguments) :
      Leads (Flawed ed.domain (.dict es)) ed.MakesExpr (argument ed 0 type es name default) :=
    argument_leads ed 0 type es name default (.generic known)
  have rest (step : Option Expr) (size : ∀ e ∈ step, ed.MakesExpr e) :
      Leads (Flawed ed.domain (.dict es)) ed.Makes (do
        let var ← variableName ed type es (some default)
        let start ← argument ed 0 type es "FROM" (some 0)
        let stop ← argument ed 0 type es "TO" none
        return [.count var start stop step (← stmts) (BlockEntries.id es)]) :=
    ((variableName_leads ed type es _).mono fun _ => .self).bind fun var named =>
      (arg "FROM" _ (by decide)).bind fun start first =>
        (arg "TO" _ (by decide)).bind fun stop last =>
          inner.bind fun body made => .pure (.singleton (.count named first last size made _))
  have after (given : Bool) : Leads (Flawed ed.domain (.dict es)) ed.Makes (do
      let step ← if given then some <$> argument ed 0 type es "BY" none else Pure.pure none
      let var ← variableName ed type es (some default)
      let start ← argument ed 0 type es "FROM" (some 0)
      let stop ← argument ed 0 type es "TO" none
      return [.count var start stop step (← stmts) (BlockEntries.id es)]) := by
    cases given with
    | true =>
      have size : Leads (Flawed ed.domain (.dict es)) (fun step => ∀ e ∈ step, ed.MakesExpr e)
          (some <$> argument ed 0 type es "BY" none) :=
        (arg "BY" none (by decide)).map fun e made _ same => Option.some.inj same ▸ made
      exact size.bind rest
    | false => exact rest none nofun
  refine (plugged?_leads "BY").bind fun plugged _ => ?_
  split
  next => exact after true
  next =>
    have asked : ed.domain.ArgumentName "BY" := .generic (by decide)
    have given : Leads (Flawed ed.domain (.dict es)) (fun _ => True)
        (Option.isSome <$> Compiling.lift (BlockEntries.field? es "BY")) :=
      (Leads.lift fun m failed => .self (.of_field asked failed)).map fun _ _ => trivial
    exact given.bind fun given _ => after given

/-- The branches of a block, each the other case of the one before. -/
theorem branching_makes {ed : Editor} {bs : List (Expr × List Stmt)} {otherwise : List Stmt}
    (each : ∀ b ∈ bs, ed.MakesExpr b.1 ∧ ed.Makes b.2) (last : ed.Makes otherwise) (id : Value) :
    ed.Makes (bs.foldr (fun b rest => [.branch b.1 b.2 rest id]) otherwise) := by
  induction bs with
  | nil => exact last
  | cons b bs ih =>
    obtain ⟨⟨condition, stmts⟩, others⟩ := List.forall_mem_cons.mp each
    exact .singleton (.branch condition stmts (ih others) id)

mutual

theorem body_leads (ed : Editor) (depth : Nat) (es : BlockEntries) (name : String) :
    Leads (Flawed ed.domain (.dict es)) ed.Makes (body ed depth es name) := by
  unfold body
  refine (plugged?_leads name).bind fun plugged into => ?_
  split
  next => exact .pure .nil
  next child inside =>
    split
    next => exact .stop _ _
    next => exact (chain_leads ed (depth + 1) child).mono fun _ => .plugged into
termination_by (sizeOf es, 0, 0)

theorem branches_leads (ed : Editor) (depth : Nat) (type : String) (es : BlockEntries) :
    (is : List Nat) →
    Leads (Flawed ed.domain (.dict es)) (fun bs => ∀ b ∈ bs, ed.MakesExpr b.1 ∧ ed.Makes b.2)
      (branches ed depth type es is)
  | [] => by
    rw [branches]
    exact .pure (List.forall_mem_nil _)
  | i :: rest => by
    rw [branches]
    exact (argument_leads ed 0 type es _ none (.condition i)).bind fun condition tested =>
      (body_leads ed depth es _).bind fun stmts made =>
        (branches_leads ed depth type es rest).bind fun others each =>
          .pure (List.forall_mem_cons.mpr ⟨⟨tested, made⟩, each⟩)
termination_by is => (sizeOf es, 1, is.length)

theorem statement_leads (ed : Editor) (depth : Nat) (type : String) (es : BlockEntries) :
    Leads (Flawed ed.domain (.dict es)) ed.Makes (statement ed depth type es) := by
  unfold statement
  refine Leads.countBlock.bind fun _ _ => ?_
  have arg (name : String) (default : Option Value) (known : name ∈ Domain.genericArguments) :
      Leads (Flawed ed.domain (.dict es)) ed.MakesExpr (argument ed 0 type es name default) :=
    argument_leads ed 0 type es name default (.generic known)
  have var (type : String) (default : Option String) :
      Leads (Flawed ed.domain (.dict es)) ed.Names (variableName ed type es default) :=
    (variableName_leads ed type es default).mono fun _ => .self
  have inner (name : String) :
      Leads (Flawed ed.domain (.dict es)) ed.Makes (body ed depth es name) :=
    body_leads ed depth es name
  have repeated : Leads (Flawed ed.domain (.dict es)) ed.Makes (do
      let times ← argument ed 0 type es "TIMES" none
      return [.loop times (← body ed depth es "DO") (BlockEntries.id es)]) :=
    (arg "TIMES" none (by decide)).bind fun times count => (inner "DO").bind fun stmts made =>
      .pure (.singleton (.loop count made _))
  dsimp only
  split
  next => exact repeated
  next => exact repeated
  next => exact repeated
  next => exact counting_leads ed es (inner "DO") _ _
  next => exact counting_leads ed es (inner "DO") _ _
  next => exact counting_leads ed es (inner "DO") _ _
  next =>
    exact (var _ _).bind fun var named =>
      (inner "DO").bind fun stmts made => .pure (.singleton (.each named made _))
  next =>
    exact (arg "CONDITION" none (by decide)).bind fun condition tested =>
      (inner "DO").bind fun stmts first => (inner "ELSE").bind fun others second =>
        .pure (.singleton (.branch tested first second _))
  next =>
    refine (Leads.lift fun m failed => .self (.of_conditions failed)).bind fun is _ =>
      (branches_leads ed depth _ es is).bind fun bs each => ?_
    split
    next => exact (Leads.stop _ _ (Q := fun _ => False)).bind fun _ => False.elim
    next =>
      exact (inner "ELSE").bind fun otherwise last => .pure (branching_makes each last _)
  next =>
    exact (var _ _).bind fun name named => (arg "VALUE" _ (by decide)).bind fun value made =>
      .pure (.singleton (.assign named made _))
  next =>
    exact (var _ _).bind fun name named => (arg "VALUE" _ (by decide)).bind fun value made =>
      .pure (.cons (.assign named made _) (.singleton (.echo named _)))
  next =>
    split
    next spec found =>
      have known := mem_of_blockSpec? found
      exact (arguments_leads ed 0 type es spec.args fun a => .command known).bind fun args made =>
        .pure (.singleton (.call known made.1 made.2 _))
    next => exact .stop _ _
termination_by (sizeOf es, 2, 0)

theorem chain_leads (ed : Editor) (depth : Nat) (block : Value) :
    Leads (Flawed ed.domain block) ed.Makes (chain ed depth block) := by
  unfold chain
  cases block with
  | null | bool | int | float | text | list | tuple | record => exact .stop _ _
  | dict es =>
    dsimp only
    split
    next type _ =>
      have rest (stmts : List Stmt) (made : ed.Makes stmts) :
          Leads (Flawed ed.domain (.dict es)) ed.Makes (do
            match ← Compiling.lift (BlockEntries.next? es) with
            | none => return stmts
            | some ⟨next, _⟩ => return stmts ++ (← chain ed depth next)) := by
        refine (Leads.lift fun m failed => .self (.of_next failed)).bind fun next after => ?_
        split
        next => exact .pure made
        next block inside =>
          have others := (chain_leads ed depth block).mono fun _ => Flawed.follows after
          exact others.bind fun others all => .pure (made.append all)
      exact .ite ((statement_leads ed depth type es).bind rest)
        ((Leads.pure (a := []) .nil).bind rest)
    next => exact .stop _ _
termination_by (sizeOf block, 3, 0)

end

theorem allStatements_leads (ed : Editor) (blocks : List Value) :
    Leads (fun m => ∃ top ∈ blocks, Flawed ed.domain top m) ed.Makes (allStatements ed blocks) := by
  induction blocks with
  | nil => exact .pure .nil
  | cons block rest ih =>
    have others (stmts : List Stmt) (made : ed.Makes stmts) :
        Leads (fun m => ∃ top ∈ block :: rest, Flawed ed.domain top m) ed.Makes
          (do return stmts ++ (← allStatements ed rest)) := by
      refine (ih.mono ?_).bind fun others all => .pure (made.append all)
      rintro m ⟨top, member, flawed⟩
      exact ⟨top, List.mem_cons_of_mem block member, flawed⟩
    have first := (chain_leads ed 0 block).mono fun m flawed =>
      (⟨block, List.mem_cons_self, flawed⟩ : ∃ top ∈ block :: rest, Flawed ed.domain top m)
    exact .ite ((Leads.pure (a := []) .nil).bind others) (first.bind others)

end Block

section

variable {workspace : Value} {d : Domain} {p : Program} {warnings : List String}

/-- A program is what the top blocks of its workspace are compiled to. -/
theorem compileBlocks_eq_done (compiled : compileBlocks workspace d = .ok (.done p warnings)) :
    ∃ w count, Workspace.ofValue workspace = .ok w ∧
      Block.allStatements ⟨d, w.names⟩ w.blocks 0 = .ok (p.statements, count) := by
  unfold compileBlocks at compiled
  split at compiled
  next made =>
    cases compiled
    obtain ⟨w, read, made⟩ := bind_eq_ok.mp made
    obtain ⟨⟨statements, count⟩, ran, made⟩ := bind_eq_ok.mp made
    cases made
    exact ⟨w, count, read, ran⟩
  next => cases compiled
  next => cases compiled

/-- What compiles follows the grammar, over the names of the workspace's variables. -/
theorem compileBlocks_makes (compiled : compileBlocks workspace d = .ok (.done p warnings)) :
    ∃ w, Workspace.ofValue workspace = .ok w ∧ Editor.Makes ⟨d, w.names⟩ p.statements := by
  obtain ⟨w, count, read, ran⟩ := compileBlocks_eq_done compiled
  exact ⟨w, read, (Block.allStatements_leads _ w.blocks).1 0 p.statements count ran⟩

end

end PuzzleWorlds
