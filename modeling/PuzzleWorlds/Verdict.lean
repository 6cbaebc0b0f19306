import PuzzleWorlds.Action.Log

/-! Verdicts on goals. A goal that is not reached is a verdict, not a fault. -/

namespace PuzzleWorlds

structure Verdict where
  success : Bool
  message : String
  details : List (String × Value) := []
deriving Repr, Inhabited

namespace Verdict

def passed (message : String) (details : List (String × Value)) : Verdict :=
  ⟨true, message, details⟩

def failed (message : String) (details : List (String × Value)) : Verdict :=
  ⟨false, message, details⟩

def toDict (v : Verdict) : Value :=
  .dict [("success", .bool v.success), ("message", .text v.message), ("details", .dict v.details)]

end Verdict

/-- Free play: at least `minimum` actions were logged, and at least one. -/
def checkFree (count : Nat) (minimum : Int) : Verdict :=
  let required := max minimum 1
  if (count : Int) ≥ required then
    .passed "Nice work, you made something!" [("actions", .nat count)]
  else
    .failed s!"Do at least {intText required} action(s) first"
      [("actions", .nat count), ("required", .int required)]

/-- The verdict on free play, unless it asks for more actions than can be written. -/
def judgeFree (count : Nat) (minimum : Int) : Except Misfit Verdict := do
  let required := max minimum 1
  if (count : Int) < required then let _ ← (Value.int required).written
  return checkFree count minimum

end PuzzleWorlds
