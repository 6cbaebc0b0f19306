import PuzzleWorlds.Robot.Level
import PuzzleWorlds.Reaction
import PuzzleWorlds.Verdict
import PuzzleWorlds.Grid

/-! The robot's world: its cell and heading on the grid, the stars and those picked up. -/

namespace PuzzleWorlds.Robot

structure World where
  width : Int
  height : Int
  x : Int
  y : Int
  heading : Heading := .east
  stars : List (Int × Int) := []
  collected : List (Int × Int) := []
deriving DecidableEq, Repr

namespace World

def initial (l : Level) : World where
  width := l.width
  height := l.height
  x := clamp l.robot.x 0 (l.width - 1)
  y := clamp l.robot.y 0 (l.height - 1)
  heading := l.robot.direction
  stars := l.stars.eraseDups

def position (w : World) : Int × Int := (w.x, w.y)

def remaining (w : World) : List (Int × Int) := w.stars.filter fun s => !w.collected.contains s

def cellText (x y : Int) : String := s!"({intText x}, {intText y})"

/-- The text of a cell in a verdict. -/
def writtenCell (x y : Int) : Except Misfit String := do
  return s!"({← (Value.int x).written}, {← (Value.int y).written})"

/-- Moves by the whole parts of `dx` and `dy` and stops at the edge. -/
def move (w : World) (p : Payload) : Except Misfit (Reaction World) := do
  let x := clamp (w.x + (← (p.dx.orElse 0).toInt)) 0 (w.width - 1)
  let y := clamp (w.y + (← (p.dy.orElse 0).toInt)) 0 (w.height - 1)
  let change :=
    if (x, y) == w.position && (p.dx.truthy || p.dy.truthy) then
      s!"Robot bumped into the edge at {cellText x y}"
    else s!"Robot moved to {cellText x y}"
  return .changed { w with x, y } [change]

/-- Turns by a multiple of a right angle. -/
def turn (w : World) (degrees : Value) : Except Misfit (Reaction World) := do
  if degrees.isNull then return .refused (.partialTurn degrees)
  let rest ← Value.operation .mod degrees 90
  if !Value.same rest 0 then return .refused (.partialTurn degrees)
  let heading := w.heading.turn (← degrees.toInt)
  return .changed { w with heading } [s!"Robot now faces {heading.name}"]

def collectStar (w : World) : Reaction World :=
  if w.remaining.contains w.position then
    .changed { w with collected := w.collected ++ [w.position] }
      [s!"Collected star at {cellText w.x w.y}"]
  else .changed w ["No star here"]

def handled : List ActionKind := [.move, .turn, .collectStar, .wait]

def react (w : World) (a : Action) : Except Misfit (Reaction World) :=
  match a.kind with
  | .move => w.move a.payload
  | .turn => w.turn a.payload.degrees
  | .collectStar => .ok w.collectStar
  | .wait => .ok (.changed w [])
  | k => .ok (.refused (.noHandler k .robot))

def cellValue (c : Int × Int) : Value := .list [.int c.1, .int c.2]

/-- Cells in the order of their texts. -/
def byText (cells : List (Int × Int)) : Value :=
  let keyed := cells.map fun c => ((cellValue c).repr, cellValue c)
  .list ((keyed.mergeSort fun a b => a.1 ≤ b.1).map (·.2))

def toDict (w : World) : Value :=
  .dict [("width", .int w.width), ("height", .int w.height), ("x", .int w.x), ("y", .int w.y),
    ("heading", .text w.heading.name), ("stars", byText w.stars),
    ("collected", byText w.collected)]

end World

def cellLe (a b : Int × Int) : Bool := a.1 < b.1 || (a.1 == b.1 && a.2 ≤ b.2)

/-- The stars that still have to be collected, in the order of their cells. -/
def missingStars (requireAllStars : Bool) (w : World) : List (Int × Int) :=
  if requireAllStars then w.remaining.mergeSort cellLe else []

def checkPosition (gx gy : Int) (requireAllStars : Bool) (w : World) :
    Except Misfit Verdict := do
  let missing := missingStars requireAllStars w
  let details : List (String × Value) :=
    [("position", World.cellValue w.position), ("goal", World.cellValue (gx, gy)),
      ("missing_stars", .list (missing.map World.cellValue))]
  if w.position != (gx, gy) then
    return .failed (s!"The robot stopped at {← World.writtenCell w.x w.y}; " ++
      s!"the goal is {← World.writtenCell gx gy}") details
  if missing.isEmpty then return .passed "The robot reached the goal!" details
  return .failed s!"Reached the goal, but {natText missing.length} star(s) are still waiting" details

def checkGoal (l : Level) (w : World) (log : ActionLog) : Except Misfit Verdict :=
  match l.goal with
  | .free n => judgeFree log.size n
  | .position x y all => checkPosition x y all w

end PuzzleWorlds.Robot
