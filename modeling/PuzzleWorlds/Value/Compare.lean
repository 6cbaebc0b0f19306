import PuzzleWorlds.Value.Basic
import PuzzleWorlds.Number.Binary

/-! Equality and order of values. Numbers compare by value whatever their kind, lists and tuples
element by element; other pairs of different kinds are unequal and have no order. -/

namespace PuzzleWorlds.Value

/-- Numbers by value, exactly; `none` beside a float that is no number, or when a side is not a
number. -/
def compareNumbers? (a b : Value) : Option Ordering :=
  match a, b with
  | float x, float y =>
    if x < y then some .lt else if x == y then some .eq else if x > y then some .gt else none
  | float x, v => v.wholeOf?.bind fun n => (compareIntFloat? n x).map Ordering.swap
  | u, float y => u.wholeOf?.bind fun n => compareIntFloat? n y
  | u, v => do some (compare (← u.wholeOf?) (← v.wholeOf?))

/-- Whether a number lies below zero. -/
def isNegative (v : Value) : Bool := compareNumbers? v 0 == some .lt

/-- Whether a number is zero or lies below. -/
def isNotPositive (v : Value) : Bool := v.isNegative || compareNumbers? v 0 == some .eq

mutual

/-- Equality of values: `1`, `1.0` and `true` are the same number. -/
def same : Value → Value → Bool
  | null, null => true
  | text s, text t => s == t
  | list l, list m => sameItems l m
  | tuple l, tuple m => sameItems l m
  | dict l, dict m | dict l, record m | record l, dict m | record l, record m =>
    l.length == m.length && sameEntries l m
  | a, b => a.isNumber && b.isNumber && compareNumbers? a b == some .eq

def sameItems : List Value → List Value → Bool
  | [], [] => true
  | a :: l, b :: m => same a b && sameItems l m
  | _, _ => false

/-- Every entry of the first dictionary is in the second. -/
def sameEntries : List (String × Value) → List (String × Value) → Bool
  | [], _ => true
  | (k, v) :: rest, m =>
    (match lookup m k with
      | some w => same v w
      | none => false) && sameEntries rest m

end

instance : BEq Value := ⟨same⟩

mutual

/-- The order of two values, or the pair of values that has none. -/
def order : Value → Value → Except (Value × Value) (Option Ordering)
  | text s, text t => .ok (some (compare s t))
  | list l, list m => orderItems l m
  | tuple l, tuple m => orderItems l m
  | a, b =>
    if a.isNumber && b.isNumber then .ok (compareNumbers? a b) else .error (a, b)

/-- Lists are ordered by their first unequal elements, and else by length. -/
def orderItems : List Value → List Value → Except (Value × Value) (Option Ordering)
  | [], [] => .ok (some .eq)
  | [], _ :: _ => .ok (some .lt)
  | _ :: _, [] => .ok (some .gt)
  | a :: l, b :: m => if same a b then orderItems l m else order a b

end

inductive Comparison where
  | eq | ne | lt | le | gt | ge
deriving DecidableEq, Repr

def Comparison.symbol : Comparison → String
  | eq => "==" | ne => "!=" | lt => "<" | le => "<=" | gt => ">" | ge => ">="

def Comparison.ofSymbol? : String → Option Comparison
  | "==" => some eq | "!=" => some ne | "<" => some lt | "<=" => some le
  | ">" => some gt | ">=" => some ge | _ => none

/-- Whether an order satisfies the comparison; with no number on a side none is satisfied. -/
def Comparison.holds (c : Comparison) (o : Option Ordering) : Bool :=
  match c, o with
  | .lt, some .lt | .le, some .lt | .le, some .eq | .gt, some .gt | .ge, some .gt
  | .ge, some .eq => true
  | _, _ => false

/-- Compares two values; equality always has an answer. -/
def compareBy (c : Comparison) (a b : Value) : Except (Value × Value) Bool :=
  match c with
  | .eq => .ok (same a b)
  | .ne => .ok (!same a b)
  | c => (order a b).map c.holds

end PuzzleWorlds.Value
