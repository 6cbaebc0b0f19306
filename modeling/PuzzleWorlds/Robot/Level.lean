import PuzzleWorlds.Level.Header

/-! Robot levels: a grid with stars, the robot's start and a cell to reach. North is towards
smaller `y`. -/

namespace PuzzleWorlds.Robot

inductive Heading where
  | north | east | south | west
deriving DecidableEq, Repr, Inhabited

namespace Heading

def all : List Heading := [north, east, south, west]

def name : Heading → String
  | north => "north" | east => "east" | south => "south" | west => "west"

def ofName? (s : String) : Option Heading := all.find? fun h => h.name == s

/-- The number of quarter turns clockwise from north. -/
def quarters : Heading → Int
  | north => 0 | east => 1 | south => 2 | west => 3

def ofQuarters (n : Int) : Heading :=
  match n % 4 with
  | 0 => north
  | 1 => east
  | 2 => south
  | _ => west

/-- Turns clockwise by the quarter turns in `degrees`, rounded down. -/
def turn (h : Heading) (degrees : Int) : Heading := ofQuarters (h.quarters + degrees.fdiv 90)

/-- One cell ahead. -/
def vector : Heading → Int × Int
  | north => (0, -1) | east => (1, 0) | south => (0, 1) | west => (-1, 0)

def decode : Decoder Heading := Decoder.choice (all.map fun h => (h.name, h))

end Heading

structure Start where
  x : Int := 0
  y : Int := 0
  direction : Heading := .east
deriving DecidableEq, Repr

inductive Goal where
  | position (x y : Int) (requireAllStars : Bool)
  | free (minActions : Int)
deriving DecidableEq, Repr

structure Level where
  header : LevelHeader
  width : Int := 5
  height : Int := 5
  robot : Start := {}
  stars : List (Int × Int) := []
  goal : Goal
deriving DecidableEq, Repr

namespace Level

def decodeStart : Decoder Start := Decoder.object "RobotStart" fun o =>
  Start.mk <$> o.withDefault "x" 0 Decoder.int
    <*> o.withDefault "y" 0 Decoder.int
    <*> o.withDefault "direction" .east Heading.decode

def decodePoint : Decoder (Int × Int) := Decoder.object "GridPoint" fun o =>
  Prod.mk <$> o.required "x" Decoder.int <*> o.required "y" Decoder.int

def decodeGoal : Decoder Goal := Decoder.tagged "type" [
  ("position", fun o => Goal.position <$> o.required "x" Decoder.int
    <*> o.required "y" Decoder.int
    <*> o.withDefault "require_all_stars" true Decoder.bool),
  ("free", fun o => Goal.free <$> decodeFreeGoal o)]

def decode (o : Fields) : Decoded Level :=
  Level.mk <$> LevelHeader.decode o
    <*> o.withDefault "width" 5 (Decoder.int.atLeast 1)
    <*> o.withDefault "height" 5 (Decoder.int.atLeast 1)
    <*> o.withDefault "robot" {} decodeStart
    <*> o.withDefault "stars" [] (Decoder.list decodePoint)
    <*> o.required "goal" decodeGoal

def dumpPoint (p : Int × Int) : Value := .dict [("x", .int p.1), ("y", .int p.2)]

def dumpGoal : Goal → Value
  | .position x y all =>
    .dict [("type", .text "position"), ("x", .int x), ("y", .int y),
      ("require_all_stars", .bool all)]
  | .free n => dumpFreeGoal n

def dump (l : Level) : List (String × Value) :=
  l.header.dump ++ [("domain", .text "robot"), ("width", .int l.width), ("height", .int l.height),
    ("robot", .dict [("x", .int l.robot.x), ("y", .int l.robot.y),
      ("direction", .text l.robot.direction.name)]),
    ("stars", .list (l.stars.map dumpPoint)), ("goal", dumpGoal l.goal)]

end Level

end PuzzleWorlds.Robot
