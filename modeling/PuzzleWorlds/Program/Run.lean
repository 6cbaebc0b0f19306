import PuzzleWorlds.Program.Evaluate
import PuzzleWorlds.Diagnostic

/-! Running programs. Every statement and every turn of a loop is charged as one step against a
budget, and a deadline is looked at with each step; the registry bounds the number of actions. -/

namespace PuzzleWorlds

/-- The bounds of a run. `clock n` is the time at its `n`-th reading; the first reading sets the
deadline, each step takes one more. -/
structure Limits where
  stepBudget : Int := 10000
  timeoutMs : Int := 2000
  clock : Nat → Float := fun _ => 0

namespace Limits

/-- The time for a run in seconds, unless it is beyond the floats. -/
def seconds? (l : Limits) : Option Float :=
  Binary.nearest? (l.timeoutMs < 0) l.timeoutMs.natAbs 1000

def deadline (l : Limits) : Float := l.clock 0 + l.seconds?.getD (1.0 / 0.0)

end Limits

/-- A program in execution. -/
structure Machine (d : Domain) where
  registry : Registry d
  vars : Variables := []
  steps : Nat := 0
  blockId : Value := .null

/-- An execution that may stop with a fault; the machine survives it. -/
abbrev Exec (d : Domain) := ExceptT Fault (StateM (Machine d))

namespace Exec

variable {d : Domain}

def lift (x : Except Fault α) : Exec d α := ExceptT.mk (pure x)

/-- Charges one step. -/
def tick (l : Limits) : Exec d Unit := do
  modify fun m => { m with steps := m.steps + 1 }
  let m ← get
  if (m.steps : Int) > l.stepBudget then throw (.tooManySteps l.stepBudget)
  if l.clock m.steps > l.deadline then throw .outOfTime

def atBlock (id : Value) : Exec d Unit :=
  if id.isNull then pure () else modify fun m => { m with blockId := id }

def evaluate (e : Expr) : Exec d Value := do
  let m ← get
  lift (e.evaluate m.registry m.vars)

def evaluateAll (es : List Expr) : Exec d (List Value) := do
  let m ← get
  lift (Expr.evaluateAll m.registry m.vars es)

def assign (name v : Value) : Exec d Unit := do
  match name.keyed with
  | .error m => throw (.misfit m)
  | .ok () => modify fun m => { m with vars := m.vars.set name v }

def invoke (name : String) (args : List Value) : Exec d Unit := do
  let m ← get
  let (result, registry) := m.registry.invoke name args
  set { m with registry }
  discard (lift result)

/-- Runs a body `n` times, each turn charged. -/
def turns (l : Limits) (body : Exec d Unit) : Nat → Exec d Unit
  | 0 => pure ()
  | n + 1 => do
    tick l
    body
    turns l body n

def forEach (l : Limits) (var : Value) (body : Exec d Unit) : List Value → Exec d Unit
  | [] => pure ()
  | item :: rest => do
    tick l
    assign var item
    body
    forEach l var body rest

def ordered (c : Value.Comparison) (a b : Value) : Exec d Bool :=
  match Value.ordered c a b with
  | .ok r => pure r
  | .error m => throw (.misfit m)

def sum (a b : Value) : Exec d Value :=
  match Value.operation .add a b with
  | .ok v => pure v
  | .error m => throw (.misfit m)

/-- Whether a counter has not passed the end of its loop, in the direction of its step. -/
def goesOn (stop step value : Value) : Exec d Bool := do
  let up ← ordered .gt step 0
  ordered (if up then .le else .ge) value stop

/-- Counts from `value` to `stop`. The last argument bounds the number of turns: as each turn is
charged, it need not exceed the steps that are left. -/
def counting (l : Limits) (var stop step : Value) (body : Exec d Unit) : Value → Nat → Exec d Unit
  | _, 0 => throw (.tooManySteps l.stepBudget)
  | value, bound + 1 => do
    if ← goesOn stop step value then
      tick l
      assign var value
      body
      counting l var stop step body (← sum value step) bound

/-- The magnitude of a loop's step. -/
def stepOf : Option Expr → Exec d Value
  | none => pure 1
  | some e => do
    let v ← evaluate e
    return (← lift (asNumber "loop step" v)).absolute

/-- Where a counting loop begins and ends, and its step towards the end. -/
def countRange (start stop : Expr) (step : Option Expr) : Exec d (Value × Value × Value) := do
  let first ← evaluate start
  let first ← lift (asNumber "loop start" first)
  let last ← evaluate stop
  let last ← lift (asNumber "loop end" last)
  let size ← stepOf step
  if Value.same size 0 then throw .zeroLoopStep
  let down ← ordered .gt first last
  return (first, last, if down then size.negate else size)

def countLoop (l : Limits) (var : Value) (start stop : Expr) (step : Option Expr)
    (body : Exec d Unit) : Exec d Unit := do
  let (first, last, step) ← countRange start stop step
  let m ← get
  counting l var last step body first ((l.stepBudget - m.steps).toNat + 2)

end Exec

namespace Stmt

variable {d : Domain}

mutual

def execute (l : Limits) : Stmt → Exec d Unit
  | call name args id => do
    Exec.tick l
    Exec.atBlock id
    Exec.invoke name (← Exec.evaluateAll args)
  | loop times body id => do
    Exec.tick l
    Exec.atBlock id
    let n ← Exec.evaluate times
    let n ← Exec.lift (asInt "repeat count" n)
    Exec.turns l (executeAll l body) n.toNat
  | count var start stop step body id => do
    Exec.tick l
    Exec.atBlock id
    Exec.countLoop l var start stop step (executeAll l body)
  | each var collection body id => do
    Exec.tick l
    Exec.atBlock id
    let m ← get
    let items ← Exec.lift (m.registry.collection collection)
    Exec.forEach l var (executeAll l body) items
  | branch condition body otherwise id => do
    Exec.tick l
    Exec.atBlock id
    if (← Exec.evaluate condition).truthy then executeAll l body else executeAll l otherwise
  | assign name value id => do
    Exec.tick l
    Exec.atBlock id
    Exec.assign name (← Exec.evaluate value)
  | unknown kind => do
    Exec.tick l
    throw (.misfit (.noAttribute kind "block_id"))

def executeAll (l : Limits) : List Stmt → Exec d Unit
  | [] => pure ()
  | s :: rest => do
    execute l s
    executeAll l rest

end

end Stmt

namespace Program

variable {d : Domain}

/-- The state in which a program ended, with the fault that stopped it if there was one. -/
def finalMachine (p : Program) (l : Limits) (r : Registry d) : Except Fault Unit × Machine d :=
  (Stmt.executeAll l p.statements).run { registry := r }

/-- The report on a run that a fault stopped: a used-up budget drops the actions, any other fault
keeps those recorded so far. -/
def report (f : Fault) (m : Machine d) : Diagnostic :=
  if f.kind == .budgetExceeded then { kind := .timeout, message := f.message }
  else
    { kind := .runtimeError, message := f.message, location := some { blockId := m.blockId }
      partialTrace := m.registry.trace }

/-- What a run leads to. A value that does not fit its use leaves it without a report, and so does a
message that cannot be written. -/
def conclude : Except Fault Unit × Machine d → Except Misfit Outcome
  | (.ok (), m) => .ok (.finished m.registry.trace [])
  | (.error (.misfit f), _) => .error f
  | (.error f, m) => if f.writable then .ok (.failed (report f m) []) else .error .unwritable

/-- Runs a program, unless the time for it cannot be told in seconds. -/
def run (p : Program) (l : Limits) (r : Registry d) : Except Misfit Outcome :=
  if l.seconds?.isNone then .error .quotientTooLarge else conclude (p.finalMachine l r)

end Program

end PuzzleWorlds
