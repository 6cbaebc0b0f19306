import PuzzleWorlds.Robot.Level
import PuzzleWorlds.Command

/-! What a program can tell the robot. The heading is kept, so that a step forward is recorded as
a relative move. -/

namespace PuzzleWorlds.Robot

inductive Command where
  | collectStar | moveForward | turnLeft | turnRight | wait
deriving DecidableEq, Repr

structure Shadow where
  heading : Heading
deriving DecidableEq, Repr

def Shadow.initial (l : Level) : Shadow := ⟨l.robot.direction⟩

namespace Command

def all : List Command := [collectStar, moveForward, turnLeft, turnRight, wait]

def spec : Command → CommandSpec
  | collectStar =>
    { name := "collect_star", aliases := ["ambil_bintang", "collectStar"]
      doc := "Pick up the star on the current cell." }
  | moveForward =>
    { name := "move_forward", aliases := ["maju", "moveForward"]
      doc := "Move one cell in the facing direction." }
  | turnLeft =>
    { name := "turn_left", aliases := ["belok_kiri", "turnLeft"]
      doc := "Turn 90 degrees counter-clockwise." }
  | turnRight =>
    { name := "turn_right", aliases := ["belok_kanan", "turnRight"]
      doc := "Turn 90 degrees clockwise." }
  | wait =>
    { name := "wait", aliases := ["tunggu"], doc := "Pause for a number of seconds."
      params := [⟨"seconds", some 1⟩] }

def call (s : Shadow) (c : Command) (a : Arguments) : Except Fault (Response Shadow) :=
  match c with
  | collectStar => .ok (.acts s .collectStar)
  | moveForward =>
    let (dx, dy) := s.heading.vector
    .ok (.acts s (.move (.int dx) (.int dy) 0))
  | turnLeft => .ok (.acts ⟨s.heading.turn (-90)⟩ (.turn (-90)))
  | turnRight => .ok (.acts ⟨s.heading.turn 90⟩ (.turn 90))
  | wait => (waitAction (a.arg 0)).map fun w => .acts s w

end Command

end PuzzleWorlds.Robot
