import PuzzleWorlds.Domain.Level
import PuzzleWorlds.Robot.World
import PuzzleWorlds.Building.World
import PuzzleWorlds.Sorting.World
import PuzzleWorlds.Combat.World
import PuzzleWorlds.Music.World
import PuzzleWorlds.Sprite.World
import PuzzleWorlds.Pixel.World
import PuzzleWorlds.Console.World

/-! Worlds of every domain: how they begin, how they react to actions, how goals are judged and
how long an action is shown. -/

namespace PuzzleWorlds

namespace Domain

/-- The worlds of a domain. -/
def World : Domain → Type
  | robot => Robot.World
  | building => Building.World
  | sorting => Sorting.World
  | combat => Combat.World
  | music => Music.World
  | sprite => Sprite.World
  | pixel => Pixel.World
  | math => Console.World

/-- The world in which a level begins; only a canvas with an unknown paint has none. -/
def initialWorld : (d : Domain) → d.Level → Except Fault d.World
  | robot, l => .ok (Robot.World.initial l)
  | building, l => .ok (Building.World.initial l)
  | sorting, l => .ok (Sorting.World.initial l)
  | combat, l => .ok (Combat.World.initial l)
  | music, _ => .ok Music.World.initial
  | sprite, l => .ok (Sprite.World.initial l)
  | pixel, l => Pixel.World.initial l
  | math, _ => .ok Console.World.initial

def handledKinds : Domain → List ActionKind
  | robot => Robot.World.handled
  | building => Building.World.handled
  | sorting => Sorting.World.handled
  | combat => Combat.World.handled
  | music => Music.World.handled
  | sprite => Sprite.World.handled
  | pixel => Pixel.World.handled
  | math => Console.World.handled

def react : (d : Domain) → d.World → Action → Except Misfit (Reaction d.World)
  | robot => Robot.World.react
  | building => Building.World.react
  | sorting => Sorting.World.react
  | combat => Combat.World.react
  | music => Music.World.react
  | sprite => Sprite.World.react
  | pixel => Pixel.World.react
  | math => Console.World.react

def worldToDict : (d : Domain) → d.World → Value
  | robot => Robot.World.toDict
  | building => Building.World.toDict
  | sorting => Sorting.World.toDict
  | combat => Combat.World.toDict
  | music => Music.World.toDict
  | sprite => Sprite.World.toDict
  | pixel => Pixel.World.toDict
  | math => Console.World.toDict

def judged (v : Except Misfit Verdict) : Except Fault Verdict :=
  match v with
  | .ok v => .ok v
  | .error m => .error (.misfit m)

/-- The verdict on a level's goal in a world with the log of its actions. -/
def checkGoal : (d : Domain) → d.Level → d.World → ActionLog → Except Fault Verdict
  | robot, l, w, log => judged (Robot.checkGoal l w log)
  | building, l, w, log => judged (Building.checkGoal l w log)
  | sorting, l, w, log => judged (Sorting.checkGoal l w log)
  | combat, l, w, log => judged (Combat.checkGoal l w log)
  | music, l, _, log => judged (Music.checkGoal l log)
  | sprite, l, w, log => judged (Sprite.checkGoal l w log)
  | pixel, l, w, log => Pixel.checkGoal l w log
  | math, l, w, log => judged (Console.checkGoal l w log)

/-- The kinds of actions that a log keeps; `none` keeps all. -/
def loggedKinds : Domain → Option (List ActionKind)
  | robot => none
  | building => some [.placeBlock, .removeBlock]
  | sorting => some [.swap]
  | combat => some [.selectTarget, .attack]
  | music => some [.playNote]
  | sprite => some [.move, .jump, .rotate, .scale, .say]
  | pixel => some [.drawPixel]
  | math => none

def newLog (d : Domain) : ActionLog := { kinds := d.loggedKinds }

/-- Whether the actions of a failed run are shown: a half-sorted shelf tells nothing. -/
def partialReplay (d : Domain) : Bool := d != sorting

/-- The pauses in seconds after the kinds of actions that have one of their own. -/
def pauses : Domain → List (ActionKind × Float)
  | robot => [(.move, 0.4), (.turn, 0.3), (.collectStar, 0.2)]
  | building =>
    [(.placeBlock, 0.15), (.removeBlock, 0.1), (.move, 0.08), (.goto, 0.1), (.setColor, 0.05)]
  | sorting => [(.swap, 0.8)]
  | combat => [(.attack, 1.0), (.selectTarget, 0.3)]
  | music => [(.playNote, 0.5), (.rest, 0.5)]
  | sprite => [(.move, 0.3), (.rotate, 0.3), (.scale, 0.3), (.jump, 0.5), (.say, 1.5)]
  | pixel => [(.drawPixel, 0.1), (.move, 0.1), (.setColor, 0.1)]
  | math => [(.print, 0.3)]

def standardPause : Float := 0.3

def pauseAfter (d : Domain) (k : ActionKind) : Float :=
  match d.pauses.find? fun p => p.1 == k with
  | some p => p.2
  | none => standardPause

/-- The number of a payload, zero when it is missing or negative. -/
def duration (v : Value) : Except Misfit Float := do
  let x ← (v.orElse 0).toNumber
  return if 0.0 > x then 0.0 else x

/-- The seconds to pause after an action: a wait lasts as long as it says, a rest its beats. -/
def pacing (d : Domain) (a : Action) : Except Misfit Float :=
  match a.kind with
  | .wait => duration a.payload.seconds
  | .rest => (duration a.payload.beats).map fun beats => beats * d.pauseAfter .rest
  | k => .ok (d.pauseAfter k)

end Domain

end PuzzleWorlds
