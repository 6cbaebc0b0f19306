import PuzzleWorlds.Domain.Level
import PuzzleWorlds.Robot.Command
import PuzzleWorlds.Building.Command
import PuzzleWorlds.Sorting.Command
import PuzzleWorlds.Combat.Command
import PuzzleWorlds.Music.Command
import PuzzleWorlds.Sprite.Command
import PuzzleWorlds.Pixel.Command
import PuzzleWorlds.Console.Command

/-! The registry of a run: the only way in which a program can affect a world. A command either
records exactly one action, or gives a value back, or refuses its arguments. The registry never
sees the live world; it keeps a bookkeeping of its own. -/

namespace PuzzleWorlds

namespace Domain

def Command : Domain → Type
  | robot => Robot.Command
  | building => Building.Command
  | sorting => Sorting.Command
  | combat => Combat.Command
  | music => Music.Command
  | sprite => Sprite.Command
  | pixel => Pixel.Command
  | math => Console.Command

/-- The bookkeeping of a domain's registry. -/
def Shadow : Domain → Type
  | robot => Robot.Shadow
  | building => Building.Shadow
  | sorting => Sorting.Shadow
  | combat => Combat.Shadow
  | pixel => Pixel.Shadow
  | music | sprite | math => Unit

def initialShadow : (d : Domain) → d.Level → Except Fault d.Shadow
  | robot, l => .ok (Robot.Shadow.initial l)
  | building, l => .ok (Building.Shadow.initial l)
  | sorting, l => .ok (Sorting.Shadow.initial l)
  | combat, l => .ok (Combat.Shadow.initial l)
  | pixel, l => Pixel.Shadow.initial l
  | music, _ | sprite, _ | math, _ => .ok ()

/-- The commands of a domain in the order of their names. -/
def commands : (d : Domain) → List d.Command
  | robot => Robot.Command.all
  | building => Building.Command.all
  | sorting => Sorting.Command.all
  | combat => Combat.Command.all
  | music => Music.Command.all
  | sprite => Sprite.Command.all
  | pixel => Pixel.Command.all
  | math => Console.Command.all

def commandSpec : {d : Domain} → d.Command → CommandSpec
  | robot => Robot.Command.spec
  | building => Building.Command.spec
  | sorting => Sorting.Command.spec
  | combat => Combat.Command.spec
  | music => Music.Command.spec
  | sprite => Sprite.Command.spec
  | pixel => Pixel.Command.spec
  | math => Console.Command.spec

def call : {d : Domain} → d.Shadow → d.Command → Arguments → Except Fault (Response d.Shadow)
  | robot => Robot.Command.call
  | building => Building.Command.call
  | sorting => Sorting.Command.call
  | combat => Combat.Command.call
  | music => fun _ => Music.Command.call
  | sprite => fun _ => Sprite.Command.call
  | pixel => Pixel.Command.call
  | math => fun _ => Console.Command.call

/-- The lists that a program can go through; only the arena has some. -/
def collection? : {d : Domain} → d.Shadow → String → Option (List Value)
  | combat, s, name => Combat.collection? s name
  | _, _, _ => none

def commandSpecs (d : Domain) : List CommandSpec := d.commands.map commandSpec

/-- Every name that a program may call. -/
def commandNames (d : Domain) : List String := d.commandSpecs.flatMap CommandSpec.allNames

/-- The command that answers to a name. -/
def command? (d : Domain) (name : String) : Option d.Command :=
  d.commands.find? fun c => (commandSpec c).allNames.contains name

def isQuery (d : Domain) (name : String) : Bool :=
  match d.command? name with
  | some c => (commandSpec c).query
  | none => false

end Domain

structure Registry (d : Domain) where
  shadow : d.Shadow
  maxActions : Int
  trace : Trace := []

namespace Registry

variable {d : Domain}

def standardMaxActions : Int := 1000

/-- A fresh registry for one run of a level. -/
def create (level : d.Level) (maxActions : Int := standardMaxActions) :
    Except Fault (Registry d) := do
  return { shadow := ← d.initialShadow level, maxActions }

/-- Adds an action to the trace, within the budget. -/
def record (r : Registry d) (a : Action) : Except Fault Value × Registry d :=
  if (r.trace.length : Int) ≥ r.maxActions then (.error (.tooManyActions r.maxActions), r)
  else (.ok .null, { r with trace := r.trace ++ [a] })

/-- What a call of a name yields before anything is recorded. -/
def respond (r : Registry d) (name : String) (args : List Value) :
    Except Fault (Response d.Shadow) := do
  match d.command? name with
  | none => throw (.unknownCommand name d.name)
  | some c => Domain.call r.shadow c (← (Domain.commandSpec c).bind name args)

/-- Calls a command by one of its names. The bookkeeping of an action is kept even when the budget
refuses to record it. -/
def invoke (r : Registry d) (name : String) (args : List Value) :
    Except Fault Value × Registry d :=
  match r.respond name args with
  | .error f => (.error f, r)
  | .ok (.answers v) => (.ok v, r)
  | .ok (.acts shadow a) => { r with shadow }.record a

def collection (r : Registry d) (name : String) : Except Fault (List Value) :=
  match Domain.collection? r.shadow name with
  | some items => .ok items
  | none => .error (.unknownCollection name d.name)

end Registry

end PuzzleWorlds
