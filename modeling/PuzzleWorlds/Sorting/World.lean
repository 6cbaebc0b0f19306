import PuzzleWorlds.Sorting.Level
import PuzzleWorlds.Reaction
import PuzzleWorlds.Verdict

/-! The potion shelf. Its only change is a swap, so it always holds the potions that it started
with. -/

namespace PuzzleWorlds.Sorting

/-- The list with the items at two places exchanged. -/
def exchange (l : List Int) (i j : Nat) : List Int :=
  match l[i]?, l[j]? with
  | some a, some b => (l.set i b).set j a
  | _, _ => l

structure World where
  potions : List Int
  start : List Int
  swaps : Nat := 0
deriving DecidableEq, Repr

namespace World

def initial (l : Level) : World := { potions := l.potions, start := l.potions }

/-- Whether `0 ≤ v < size`. -/
def within (v : Value) (size : Nat) : Except Misfit Bool := do
  if ← Value.ordered .le 0 v then Value.ordered .lt v (.nat size) else return false

/-- The place on the shelf that a number in range names; a float names none. -/
def placeOf (v : Value) : Except Misfit Nat :=
  match v.wholeOf? with
  | some n => .ok n.toNat
  | none => .error (.notAnIndex v.typeName)

def swap (w : World) (first second : Value) : Except Misfit (Reaction World) := do
  let size := w.potions.length
  let outside : Reaction World := .refused (.swapOutside first second size)
  if first.isNull || second.isNull then return outside
  if !(← within first size) then return outside
  if !(← within second size) then return outside
  let j ← placeOf second
  let i ← placeOf first
  let potions := exchange w.potions i j
  return .changed { w with potions, swaps := w.swaps + 1 }
    [s!"Swapped potion {first.display} and {second.display}: " ++
      (Value.list (potions.map .int)).display]

def handled : List ActionKind := [.swap]

def react (w : World) (a : Action) : Except Misfit (Reaction World) :=
  match a.kind with
  | .swap => w.swap a.payload.first a.payload.second
  | k => .ok (.refused (.noHandler k .sorting))

def toDict (w : World) : Value :=
  .dict [("potions", .list (w.potions.map .int)), ("initial", .list (w.start.map .int)),
    ("swaps", .nat w.swaps)]

end World

def checkSorted (order : SortOrder) (maxSwaps : Option Int) (w : World) : Verdict :=
  let details : List (String × Value) :=
    [("potions", .list (w.potions.map .int)), ("swaps", .nat w.swaps),
      ("max_swaps", Value.ofOptionInt maxSwaps), ("order", .text order.name)]
  if !isSorted order w.potions then
    .failed s!"The potions are not sorted {order.name} yet" details
  else match maxSwaps with
    | some n =>
      if (w.swaps : Int) > n then
        .failed (s!"Sorted, but with {natText w.swaps} swaps; " ++
          s!"try to use at most {intText n}") details
      else passed details
    | none => passed details
where
  passed (details : List (String × Value)) : Verdict :=
    .passed s!"Sorted in {natText w.swaps} swap(s)!" details

def checkGoal (l : Level) (w : World) (log : ActionLog) : Except Misfit Verdict :=
  match l.goal with
  | .free n => judgeFree log.size n
  | .sortedWithBudget order maxSwaps => .ok (checkSorted order maxSwaps w)

end PuzzleWorlds.Sorting
