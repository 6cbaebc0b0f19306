import PuzzleWorlds.Value.Compare
import PuzzleWorlds.Number.Notation

/-! Arithmetic on values. Whole numbers are unbounded; beside a float they become floats first,
which fails when they are too large. Division of whole numbers is rounded once, and a remainder
has the sign of its divisor. -/

namespace PuzzleWorlds

inductive ArithFault where
  | zeroDivision
  | tooLarge
  | unsupported
deriving DecidableEq, Repr

inductive Operator where
  | add | sub | mul | div | mod
deriving DecidableEq, Repr

namespace Operator

def symbol : Operator → String
  | add => "+" | sub => "-" | mul => "*" | div => "/" | mod => "%"

def ofSymbol? : String → Option Operator
  | "+" => some add | "-" => some sub | "*" => some mul | "/" => some div | "%" => some mod
  | _ => none

end Operator

namespace Value

def intToFloat (n : Int) : Except ArithFault Float :=
  match Binary.nearestInt? n with
  | some x => .ok x
  | none => .error .tooLarge

def toFloat : Value → Except ArithFault Float
  | float x => .ok x
  | v => match v.wholeOf? with
    | some n => intToFloat n
    | none => .error .unsupported

def divideInts (a b : Int) : Except ArithFault Value :=
  if b == 0 then .error .zeroDivision else
  match Binary.nearest? ((a < 0) != (b < 0)) a.natAbs b.natAbs with
  | some x => .ok (float x)
  | none => .error .tooLarge

def intOperation (op : Operator) (a b : Int) : Except ArithFault Value :=
  match op with
  | .add => .ok (int (a + b))
  | .sub => .ok (int (a - b))
  | .mul => .ok (int (a * b))
  | .div => divideInts a b
  | .mod => if b == 0 then .error .zeroDivision else .ok (int (a.fmod b))

def floatOperation (op : Operator) (x y : Float) : Except ArithFault Value :=
  match op with
  | .add => .ok (float (x + y))
  | .sub => .ok (float (x - y))
  | .mul => .ok (float (x * y))
  | .div => if y == 0 then .error .zeroDivision else .ok (float (x / y))
  | .mod => if y == 0 then .error .zeroDivision else .ok (float (floatMod x y))

/-- The most elements that a repeated list can hold. -/
def maxElements : Nat := 0x100000000

/-- Repeats items; a count of more than 64 bits is refused even when there are none. -/
def repeatItems (l : List α) (n : Int) : Except ArithFault (List α) :=
  if n < -0x8000000000000000 || 0x8000000000000000 ≤ n then .error .tooLarge
  else if l.isEmpty then .ok []
  else if l.length * n.toNat > maxElements then .error .tooLarge
  else .ok (List.replicate n.toNat l).flatten

def repeated : Value → Int → Except ArithFault Value
  | text s, n => (repeatItems s.toList n).map fun cs => text (String.ofList cs)
  | list l, n => (repeatItems l n).map list
  | tuple l, n => (repeatItems l n).map tuple
  | _, _ => .error .unsupported

/-- One operation on two values. -/
def operate (op : Operator) (a b : Value) : Except ArithFault Value :=
  match a.wholeOf?, b.wholeOf? with
  | some m, some n => intOperation op m n
  | i, j =>
    if a.isNumber && b.isNumber then do floatOperation op (← a.toFloat) (← b.toFloat)
    else match op, a, b with
      | .add, text s, text t => .ok (text (s ++ t))
      | .add, list l, list m => .ok (list (l ++ m))
      | .add, tuple l, tuple m => .ok (tuple (l ++ m))
      | .mul, v, w =>
        match i, j with
        | _, some n => v.repeated n
        | some n, _ => w.repeated n
        | _, _ => .error .unsupported
      | _, _, _ => .error .unsupported

/-- The number with the other sign. -/
def negate : Value → Value
  | float x => float (-x)
  | v => match v.wholeOf? with
    | some n => int (-n)
    | none => v

def absolute : Value → Value
  | float x => float x.abs
  | v => match v.wholeOf? with
    | some n => int n.natAbs
    | none => v

end Value

end PuzzleWorlds
