import PuzzleWorlds.Program.Syntax
import PuzzleWorlds.Domain.Registry

/-! Values of expressions. Numeric text counts as a number, results have a bounded size, and a
query is answered by the registry; nothing that an expression does changes a state. -/

namespace PuzzleWorlds

/-- The learner's variables in the order of their first assignment. -/
abbrev Variables := List (Value × Value)

namespace Variables

def get? (vs : Variables) (name : Value) : Option Value :=
  (vs.find? fun v => Value.same v.1 name).map (·.2)

def set : Variables → Value → Value → Variables
  | [], name, x => [(name, x)]
  | v :: rest, name, x => if Value.same v.1 name then (v.1, x) :: rest else v :: set rest name x

end Variables

/-- The most binary digits of a whole number that a program computes. -/
def maxIntBits : Nat := 4096

/-- The most characters of a text that a program computes. -/
def maxTextLength : Nat := 10000

/-- The number of binary digits. -/
def bitLength (n : Int) : Nat := if n == 0 then 0 else n.natAbs.log2 + 1

namespace Value

/-- Refuses operations whose result would be too large to hold. -/
def checkOperands (op : Operator) (a b : Value) : Except Fault Unit :=
  let textual (s : String) (other : Value) : Except Fault Unit :=
    match op with
    | .add => .ok ()
    | .mul => match other.wholeOf? with
      | some n =>
        if s.length * n.toNat > maxTextLength then .error .textTooLong else .ok ()
      | none => .ok ()
    | _ => .error (.textOperand op.symbol a b)
  match a, b with
  | text s, other => textual s other
  | other, text s => textual s other
  | a, b => match op, a.wholeOf?, b.wholeOf? with
    | .mul, some m, some n =>
      if bitLength m + bitLength n > maxIntBits then .error .numberTooBig else .ok ()
    | _, _, _ => .ok ()

/-- Refuses a result that is too large. -/
def checkResult : Value → Except Fault Unit
  | int n => if bitLength n > maxIntBits then .error .numberTooBig else .ok ()
  | text s => if s.length > maxTextLength then .error .textTooLong else .ok ()
  | _ => .ok ()

/-- Two texts are joined as they are; any other text operand is read as a number if it is one. -/
def operands (op : Operator) (a b : Value) : Value × Value :=
  match op, a, b with
  | .add, text s, text t => (text s, text t)
  | _, a, b => (a.numeric, b.numeric)

/-- A computed value in a program: a whole result is an integer unless it comes from a division. -/
def compute (op : Operator) (a b : Value) : Except Fault Value := do
  let (a, b) := operands op a b
  checkOperands op a b
  match operate op a b with
  | .error .zeroDivision => throw .zeroDivision
  | .error .tooLarge => throw (.tooLargeFor op.symbol a b)
  | .error .unsupported => throw (.notComputable op.symbol a b)
  | .ok v =>
    checkResult v
    return if op == .div then v else v.simplify

def contrast (c : Comparison) (a b : Value) : Except Fault Value :=
  let (a, b) := (a.numeric, b.numeric)
  match compareBy c a b with
  | .ok r => .ok (bool r)
  | .error _ => .error (.notComparable c.symbol a b)

end Value

namespace Expr

variable {d : Domain}

mutual

def evaluate (r : Registry d) (vs : Variables) : Expr → Except Fault Value
  | literal v => .ok v
  | var name => do
    match name.keyed with
    | .error m => throw (.misfit m)
    | .ok () => match vs.get? name with
      | some v => return v
      | none =>
        throw (if name.writable then .unboundVariable name.display else .misfit .unwritable)
  | binary op a b => do
    match Operator.ofSymbol? op with
    | none => throw (.unknownOperator op)
    | some o => Value.compute o (← evaluate r vs a) (← evaluate r vs b)
  | compare op a b => do
    match Value.Comparison.ofSymbol? op with
    | none => throw (.unknownComparison op)
    | some c => Value.contrast c (← evaluate r vs a) (← evaluate r vs b)
  | logic op a b => do
    let left := (← evaluate r vs a).truthy
    if (op == "and") != left then return .bool left
    return .bool (← evaluate r vs b).truthy
  | not a => do return .bool !(← evaluate r vs a).truthy
  | query name args => do
    if !d.isQuery name then throw (.notAQuery name)
    (r.invoke name (← evaluateAll r vs args)).1
  | field target name => do
    let v ← evaluate r vs target
    match v.get? name with
    | some x => return x
    | none => throw (.noField v name)
  | unknown kind => .error (.notEvaluable kind)

def evaluateAll (r : Registry d) (vs : Variables) : List Expr → Except Fault (List Value)
  | [] => .ok []
  | e :: rest => do
    let v ← evaluate r vs e
    let vs' ← evaluateAll r vs rest
    return v :: vs'

end

end Expr

end PuzzleWorlds
