import PuzzleWorlds.Proofs.NamedPrograms
import PuzzleWorlds.Proofs.SingleActions

/-! The moves of a program. Only its variables and its registry decide how it goes on: a call that
acts adds one action, and no other move adds any. It stops where a statement breaks, by an argument,
a condition, a bound or a call of its own; what it does up to there, and where that is, can only be
told in one way. -/

namespace PuzzleWorlds

variable {d : Domain}

/-- What a program can tell of its state. -/
structure Scene (d : Domain) where
  registry : Registry d
  vars : Variables := []

def Machine.scene (m : Machine d) : Scene d := ⟨m.registry, m.vars⟩

namespace Scene

def value (σ : Scene d) (e : Expr) : Except Fault Value := e.evaluate σ.registry σ.vars

def values (σ : Scene d) (es : List Expr) : Except Fault (List Value) :=
  Expr.evaluateAll σ.registry σ.vars es

/-- The value of a bound, which has to be a number. -/
def bound (σ : Scene d) (what : String) (e : Expr) : Except Fault Value :=
  σ.value e >>= asNumber what

/-- The magnitude of a loop's step. -/
def size (σ : Scene d) : Option Expr → Except Fault Value
  | none => .ok 1
  | some e => (σ.bound "loop step" e).map Value.absolute

def assign (σ : Scene d) (name v : Value) : Scene d := { σ with vars := σ.vars.set name v }

end Scene

namespace Stmt

def blockId : Stmt → Value
  | call _ _ id | loop _ _ id | count _ _ _ _ _ id | each _ _ _ id | branch _ _ _ id
  | assign _ _ id => id
  | unknown _ => .null

/-- A part of the statement's own fails: not one of the statements inside it. -/
inductive Breaks (σ : Scene d) : Stmt → Fault → Prop
  | argument {name : String} {args : List Expr} {id : Value} {f : Fault} :
    σ.values args = .error f → Breaks σ (call name args id) f
  | primitive {name : String} {args : List Expr} {id : Value} {vals : List Value} {f : Fault} :
    σ.values args = .ok vals → (σ.registry.invoke name vals).1 = .error f →
    Breaks σ (call name args id) f
  | times {times : Expr} {body : List Stmt} {id : Value} {f : Fault} :
    σ.value times >>= asInt "repeat count" = .error f → Breaks σ (loop times body id) f
  | start {var : Value} {start stop : Expr} {step : Option Expr} {body : List Stmt} {id : Value}
    {f : Fault} :
    σ.bound "loop start" start = .error f → Breaks σ (count var start stop step body id) f
  | stop {var : Value} {start stop : Expr} {step : Option Expr} {body : List Stmt} {id a : Value}
    {f : Fault} :
    σ.bound "loop start" start = .ok a → σ.bound "loop end" stop = .error f →
    Breaks σ (count var start stop step body id) f
  | step {var : Value} {start stop : Expr} {step : Option Expr} {body : List Stmt}
    {id a b : Value} {f : Fault} :
    σ.bound "loop start" start = .ok a → σ.bound "loop end" stop = .ok b →
    σ.size step = .error f → Breaks σ (count var start stop step body id) f
  | still {var : Value} {start stop : Expr} {step : Option Expr} {body : List Stmt}
    {id a b c : Value} :
    σ.bound "loop start" start = .ok a → σ.bound "loop end" stop = .ok b →
    σ.size step = .ok c → Value.same c 0 = true →
    Breaks σ (count var start stop step body id) .zeroLoopStep
  | collection {var : Value} {collection : String} {body : List Stmt} {id : Value} {f : Fault} :
    σ.registry.collection collection = .error f → Breaks σ (each var collection body id) f
  | condition {condition : Expr} {body otherwise : List Stmt} {id : Value} {f : Fault} :
    σ.value condition = .error f → Breaks σ (branch condition body otherwise id) f
  | value {name : Value} {value : Expr} {id : Value} {f : Fault} :
    σ.value value = .error f → Breaks σ (assign name value id) f

end Stmt

/-- A counter has not passed the end of its loop. -/
def InLoop (stop step value : Value) (inside : Bool) : Prop :=
  ∃ up, Value.ordered .gt step 0 = .ok up ∧
    Value.ordered (if up then .le else .ge) value stop = .ok inside

theorem InLoop.unique {stop step value : Value} {inside inside' : Bool}
    (h : InLoop stop step value inside) (h' : InLoop stop step value inside') :
    inside = inside' := by
  obtain ⟨up, direction, compared⟩ := h
  obtain ⟨up', direction', compared'⟩ := h'
  cases direction.symm.trans direction'
  exact Except.ok.inj (compared.symm.trans compared')

/-- One move of a task, with the actions that it adds to the trace and the tasks that it leaves. -/
inductive Step : Task → Scene d → Trace → List Task → Scene d → Prop
  | acts {σ : Scene d} {name : String} {args : List Expr} {id v : Value} {vals : List Value}
    {r : Registry d} {a : Action} :
    σ.values args = .ok vals → d.isEffect name = true → σ.registry.invoke name vals = (.ok v, r) →
    r.trace = σ.registry.trace ++ [a] →
    Step (.stmt (.call name args id)) σ [a] [] { σ with registry := r }
  | asks {σ : Scene d} {name : String} {args : List Expr} {id v : Value} {vals : List Value} :
    σ.values args = .ok vals → d.isQuery name = true →
    σ.registry.invoke name vals = (.ok v, σ.registry) →
    Step (.stmt (.call name args id)) σ [] [] σ
  | repeats {σ : Scene d} {times : Expr} {body : List Stmt} {id : Value} {n : Int} :
    σ.value times >>= asInt "repeat count" = .ok n →
    Step (.stmt (.loop times body id)) σ [] [.turns n.toNat body] σ
  | counts {σ : Scene d} {var : Value} {start stop : Expr} {step : Option Expr} {body : List Stmt}
    {id a b c : Value} {down : Bool} :
    σ.bound "loop start" start = .ok a → σ.bound "loop end" stop = .ok b →
    σ.size step = .ok c → Value.same c 0 = false → Value.ordered .gt a b = .ok down →
    Step (.stmt (.count var start stop step body id)) σ []
      [.count var b (if down then c.negate else c) a body] σ
  | goesThrough {σ : Scene d} {var : Value} {collection : String} {body : List Stmt} {id : Value}
    {items : List Value} :
    σ.registry.collection collection = .ok items →
    Step (.stmt (.each var collection body id)) σ [] [.each var items body] σ
  | chooses {σ : Scene d} {condition : Expr} {body otherwise : List Stmt} {id v : Value} :
    σ.value condition = .ok v →
    Step (.stmt (.branch condition body otherwise id)) σ []
      ((if v.truthy then body else otherwise).map .stmt) σ
  | assigns {σ : Scene d} {name : Value} {value : Expr} {id v : Value} :
    σ.value value = .ok v → Step (.stmt (.assign name value id)) σ [] [] (σ.assign name v)
  | turn {σ : Scene d} {n : Nat} {body : List Stmt} :
    Step (.turns (n + 1) body) σ [] (body.map .stmt ++ [.turns n body]) σ
  | noTurn {σ : Scene d} {body : List Stmt} : Step (.turns 0 body) σ [] [] σ
  | item {σ : Scene d} {var item : Value} {items : List Value} {body : List Stmt} :
    Step (.each var (item :: items) body) σ [] (body.map .stmt ++ [.each var items body])
      (σ.assign var item)
  | noItem {σ : Scene d} {var : Value} {body : List Stmt} : Step (.each var [] body) σ [] [] σ
  | inside {σ : Scene d} {var stop step value : Value} {body : List Stmt} :
    InLoop stop step value true →
    Step (.count var stop step value body) σ []
      (body.map .stmt ++ [.moveOn var stop step value body]) (σ.assign var value)
  | past {σ : Scene d} {var stop step value : Value} {body : List Stmt} :
    InLoop stop step value false → Step (.count var stop step value body) σ [] [] σ
  | moveOn {σ : Scene d} {var stop step value next : Value} {body : List Stmt} :
    Value.operation .add value step = .ok next →
    Step (.moveOn var stop step value body) σ [] [.count var stop step next body] σ

/-- The tasks come to a statement, with the actions that were added on the way. -/
inductive Arrives : List Task → Scene d → Trace → Stmt → Scene d → Prop
  | here {s : Stmt} {ts : List Task} {σ : Scene d} : Arrives (.stmt s :: ts) σ [] s σ
  | move {t : Task} {ts parts : List Task} {σ τ υ : Scene d} {a b : Trace} {s : Stmt} :
    Step t σ a parts τ → Arrives (parts ++ ts) τ b s υ → Arrives (t :: ts) σ (a ++ b) s υ

/-- Each move adds its actions to the end of the trace. -/
theorem Step.trace {t : Task} {σ τ : Scene d} {a : Trace} {parts : List Task}
    (h : Step t σ a parts τ) : τ.registry.trace = σ.registry.trace ++ a := by
  cases h with
  | acts _ _ _ recorded => exact recorded
  | asks | repeats | counts | goesThrough | chooses | assigns | turn | noTurn | item | noItem
  | inside | past | moveOn => exact (List.append_nil _).symm

theorem Arrives.trace {ts : List Task} {σ υ : Scene d} {a : Trace} {s : Stmt}
    (h : Arrives ts σ a s υ) : υ.registry.trace = σ.registry.trace ++ a := by
  induction h with
  | here => exact (List.append_nil _).symm
  | move step _ ih => rw [ih, step.trace, List.append_assoc]

namespace Stmt

mutual

/-- A statement, and all the statements inside it after it. -/
def flatten : Stmt → List Stmt
  | call name args id => [call name args id]
  | loop times body id => loop times body id :: flattenAll body
  | count var start stop step body id => count var start stop step body id :: flattenAll body
  | each var collection body id => each var collection body id :: flattenAll body
  | branch condition body otherwise id =>
    branch condition body otherwise id :: (flattenAll body ++ flattenAll otherwise)
  | assign name value id => [assign name value id]
  | unknown kind => [unknown kind]

def flattenAll : List Stmt → List Stmt
  | [] => []
  | s :: rest => flatten s ++ flattenAll rest

end

theorem flattenAll_append (body rest : List Stmt) :
    flattenAll (body ++ rest) = flattenAll body ++ flattenAll rest := by
  induction body with
  | nil => rfl
  | cons s body ih =>
    change s.flatten ++ flattenAll (body ++ rest) = s.flatten ++ flattenAll body ++ flattenAll rest
    rw [ih, List.append_assoc]

theorem flatten_eq (s : Stmt) : s.flatten = s :: flattenAll s.inner := by
  cases s with
  | branch condition body otherwise id => rw [flatten, inner, flattenAll_append]
  | call | loop | count | each | assign | unknown => rfl

end Stmt

namespace Task

/-- The statements that a task can come to. -/
def flatten : Task → List Stmt
  | stmt s => s.flatten
  | turns _ body | each _ _ body | count _ _ _ _ body | moveOn _ _ _ _ body => Stmt.flattenAll body

def flattenAll (ts : List Task) : List Stmt := ts.flatMap flatten

theorem flattenAll_append (ts us : List Task) :
    flattenAll (ts ++ us) = flattenAll ts ++ flattenAll us := List.flatMap_append

theorem flattenAll_singleton (t : Task) : flattenAll [t] = t.flatten :=
  List.flatMap_singleton _ _

theorem flattenAll_stmt (body : List Stmt) : flattenAll (body.map stmt) = Stmt.flattenAll body := by
  induction body with
  | nil => rfl
  | cons s body ih => exact congrArg (s.flatten ++ ·) ih

/-- The parts of a task only have statements that it has. -/
theorem flattenAll_parts {t : Task} {σ τ : Scene d} {a : Trace} {parts : List Task}
    (h : Step t σ a parts τ) : flattenAll parts ⊆ t.flatten := by
  have turn (body : List Stmt) (rest : Task) (same : rest.flatten = Stmt.flattenAll body) :
      flattenAll (body.map stmt ++ [rest]) ⊆ Stmt.flattenAll body := by
    rw [flattenAll_append, flattenAll_stmt, flattenAll_singleton, same]
    exact List.append_subset.mpr ⟨List.Subset.refl _, List.Subset.refl _⟩
  cases h with
  | acts | asks | assigns | noTurn | noItem | past => exact List.nil_subset _
  | repeats | counts | goesThrough =>
    rw [flattenAll_singleton]
    exact List.subset_cons_self _ _
  | @chooses condition body otherwise id v =>
    rw [flattenAll_stmt]
    refine List.subset_cons_of_subset _ ?_
    split
    next => exact List.subset_append_left _ _
    next => exact List.subset_append_right _ _
  | turn | item | inside => exact turn _ _ rfl
  | moveOn =>
    rw [flattenAll_singleton]
    exact List.Subset.refl _

end Task

/-- The statement that the tasks come to is one of theirs. -/
theorem Arrives.mem {ts : List Task} {σ υ : Scene d} {a : Trace} {s : Stmt}
    (h : Arrives ts σ a s υ) : s ∈ Task.flattenAll ts := by
  induction h with
  | @here s ts =>
    refine List.mem_append_left _ ?_
    rw [Task.flatten, Stmt.flatten_eq]
    exact List.mem_cons_self
  | @move t ts parts σ τ υ a b s step _ ih =>
    rw [Task.flattenAll_append] at ih
    obtain inside | later := List.mem_append.mp ih
    · exact List.mem_append_left _ (Task.flattenAll_parts step inside)
    · exact List.mem_append_right _ later

theorem Domain.isQuery_of_isEffect {name : String} (acts : d.isEffect name = true) :
    d.isQuery name = false := by
  unfold isEffect at acts
  unfold isQuery
  cases known : d.command? name with
  | none => rfl
  | some c =>
    rw [known] at acts
    exact Bool.not_eq_true' _ |>.mp acts

/-- A task has one move at most. -/
theorem Step.unique {t : Task} {σ τ τ' : Scene d} {a a' : Trace} {parts parts' : List Task}
    (h : Step t σ a parts τ) (h' : Step t σ a' parts' τ') : a = a' ∧ parts = parts' ∧ τ = τ' := by
  cases h with
  | acts evaluated kind invoked recorded =>
    cases h' with
    | acts evaluated' kind' invoked' recorded' =>
      cases evaluated.symm.trans evaluated'
      cases invoked.symm.trans invoked'
      exact ⟨List.append_cancel_left (recorded.symm.trans recorded'), rfl, rfl⟩
    | asks _ kind' => cases (Domain.isQuery_of_isEffect kind).symm.trans kind'
  | asks evaluated kind invoked =>
    cases h' with
    | acts _ kind' => cases (Domain.isQuery_of_isEffect kind').symm.trans kind
    | asks => exact ⟨rfl, rfl, rfl⟩
  | repeats counted =>
    cases h' with
    | repeats counted' =>
      cases counted.symm.trans counted'
      exact ⟨rfl, rfl, rfl⟩
  | counts first last sized _ compared =>
    cases h' with
    | counts first' last' sized' _ compared' =>
      cases first.symm.trans first'
      cases last.symm.trans last'
      cases sized.symm.trans sized'
      cases compared.symm.trans compared'
      exact ⟨rfl, rfl, rfl⟩
  | goesThrough listed =>
    cases h' with
    | goesThrough listed' =>
      cases listed.symm.trans listed'
      exact ⟨rfl, rfl, rfl⟩
  | chooses chosen =>
    cases h' with
    | chooses chosen' =>
      cases chosen.symm.trans chosen'
      exact ⟨rfl, rfl, rfl⟩
  | assigns evaluated =>
    cases h' with
    | assigns evaluated' =>
      cases evaluated.symm.trans evaluated'
      exact ⟨rfl, rfl, rfl⟩
  | turn | noTurn | item | noItem =>
    cases h'
    exact ⟨rfl, rfl, rfl⟩
  | inside inside =>
    cases h' with
    | inside => exact ⟨rfl, rfl, rfl⟩
    | past past => cases inside.unique past
  | past past =>
    cases h' with
    | inside inside => cases inside.unique past
    | past => exact ⟨rfl, rfl, rfl⟩
  | moveOn sum =>
    cases h' with
    | moveOn sum' =>
      cases sum.symm.trans sum'
      exact ⟨rfl, rfl, rfl⟩

/-- A statement that breaks has no move. -/
theorem Stmt.Breaks.stuck {s : Stmt} {σ τ : Scene d} {f : Fault} {a : Trace} {parts : List Task}
    (h : s.Breaks σ f) : ¬Step (.stmt s) σ a parts τ := by
  intro step
  cases h with
  | argument refused =>
    cases step with
    | acts evaluated | asks evaluated => cases refused.symm.trans evaluated
  | primitive evaluated refused =>
    cases step with
    | acts evaluated' _ invoked =>
      cases evaluated.symm.trans evaluated'
      rw [invoked] at refused
      cases refused
    | asks evaluated' _ invoked =>
      cases evaluated.symm.trans evaluated'
      rw [invoked] at refused
      cases refused
  | times refused =>
    cases step with
    | repeats counted => cases refused.symm.trans counted
  | start refused =>
    cases step with
    | counts first => cases refused.symm.trans first
  | stop _ refused =>
    cases step with
    | counts _ last => cases refused.symm.trans last
  | step _ _ refused =>
    cases step with
    | counts _ _ sized => cases refused.symm.trans sized
  | still _ _ sized still =>
    cases step with
    | counts _ _ sized' moves =>
      cases sized.symm.trans sized'
      cases still.symm.trans moves
  | collection refused =>
    cases step with
    | goesThrough listed => cases refused.symm.trans listed
  | condition refused =>
    cases step with
    | chooses chosen => cases refused.symm.trans chosen
  | value refused =>
    cases step with
    | assigns evaluated => cases refused.symm.trans evaluated

/-- The tasks come to one statement at most that breaks. -/
theorem Arrives.unique {ts : List Task} {σ υ υ' : Scene d} {a a' : Trace} {s s' : Stmt}
    {f f' : Fault} (h : Arrives ts σ a s υ) (broken : s.Breaks υ f) (h' : Arrives ts σ a' s' υ')
    (broken' : s'.Breaks υ' f') : s = s' ∧ a = a' ∧ υ = υ' := by
  induction h generalizing a' with
  | here =>
    cases h' with
    | here => exact ⟨rfl, rfl, rfl⟩
    | move step _ => exact absurd step broken.stuck
  | move step _ ih =>
    cases h' with
    | here => exact absurd step broken'.stuck
    | move step' later' =>
      obtain ⟨rfl, rfl, rfl⟩ := step.unique step'
      obtain ⟨same, rfl, ended⟩ := ih broken later'
      exact ⟨same, rfl, ended⟩

end PuzzleWorlds
