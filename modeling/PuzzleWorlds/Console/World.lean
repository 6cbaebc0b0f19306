import PuzzleWorlds.Console.Level
import PuzzleWorlds.Reaction
import PuzzleWorlds.Verdict

/-! The console fills with printed lines. -/

namespace PuzzleWorlds.Console

structure World where
  output : List Value := []
deriving Repr

namespace World

def initial : World := {}

def print (w : World) (text : Value) : Reaction World :=
  let line := text.orElse (.text "")
  .changed { output := w.output ++ [line] } [s!"> {line.display}"]

def handled : List ActionKind := [.print]

def react (w : World) (a : Action) : Except Misfit (Reaction World) :=
  match a.kind with
  | .print => .ok (w.print a.payload.text)
  | k => .ok (.refused (.noHandler k .math))

def toDict (w : World) : Value := .dict [("output", .list w.output)]

end World

/-- The texts of the lines from position `i` on, if all are texts. -/
def textsFrom : Nat → List Value → Except Misfit (List String)
  | _, [] => .ok []
  | i, .text s :: rest => (textsFrom (i + 1) rest).map (s :: ·)
  | i, v :: _ => .error (.notJoinable i v.typeName)

def checkOutput (expected : List String) (w : World) : Except Misfit Verdict := do
  let wanted := expected.map Value.text
  let details : List (String × Value) := [("output", .list w.output), ("expected", .list wanted)]
  if Value.sameItems (w.output.take wanted.length) wanted then
    return .passed "Correct answer!" details
  if w.output.isEmpty then
    return .failed "Nothing was printed; use print to show the answer" details
  let got ← textsFrom 0 w.output
  return .failed
    s!"Expected {Value.joinComma expected} but got {Value.joinComma got}" details

def checkGoal (l : Level) (w : World) (log : ActionLog) : Except Misfit Verdict :=
  match l.goal with
  | .free n => judgeFree log.size n
  | .output expected => checkOutput expected w

end PuzzleWorlds.Console
