import PuzzleWorlds.Action.Basic

/-! One line about an action, for replay logs. -/

namespace PuzzleWorlds

/-- A number with its sign written out. -/
def signedText (v : Value) : Except Misfit String :=
  let signed (s : String) : String := if s.startsWith "-" then s else "+" ++ s
  match v with
  | .int n => .ok (signed (intText n))
  | .bool b => .ok (if b then "+1" else "+0")
  | .float x => .ok (signed (floatText x))
  | .text _ => .error .signOnText
  | v => .error (.notFormattable v.typeName)

namespace Action

def describeMove (p : Payload) : Except Misfit String := do
  let used := [("dx", p.dx), ("dy", p.dy), ("dz", p.dz)].filter fun e => e.2.truthy
  let parts ← used.mapM fun (axis, v) => return axis ++ "=" ++ (← signedText v)
  return "move " ++ (if parts.isEmpty then "nowhere" else " ".intercalate parts)

/-- The first parameter that says what the action is about. -/
def detail? (p : Payload) : Option Value :=
  [p.degrees, p.position, p.color, p.targetId, p.note, p.text, p.seconds, p.beats,
    p.percent].find? fun v => !v.isNull

def describe (a : Action) : Except Misfit String :=
  let p := a.payload
  match a.kind with
  | .move => describeMove p
  | .swap => .ok s!"swap {p.first.display}<->{p.second.display}"
  | .placeBlock | .drawPixel => .ok s!"{a.kind.name} {p.position.display} {p.color.display}"
  | _ => match detail? p with
    | none => .ok a.kind.name
    | some v => .ok s!"{a.kind.name} {v.display}"

end Action

end PuzzleWorlds
