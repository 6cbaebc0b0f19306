import PuzzleWorlds.Combat.Level
import PuzzleWorlds.Reaction
import PuzzleWorlds.Verdict
import PuzzleWorlds.Grid

/-! The arena. An attack takes the hero's strength from an enemy's hit points, which stay between
zero and their cap. -/

namespace PuzzleWorlds.Combat

structure Fighter where
  id : String
  name : String
  x : Int
  y : Int
  hp : Int
  maxHp : Int
  attack : Int := 0
  range : Int := 1
deriving DecidableEq, Repr

namespace Fighter

def ofConfig (u : UnitConfig) : Fighter :=
  ⟨u.id, u.name, u.x, u.y, u.hp, u.hpCap, u.attack, u.range⟩

def defeated (u : Fighter) : Bool := u.hp ≤ 0

def toEntries (u : Fighter) : List (String × Value) :=
  [("id", .text u.id), ("name", .text u.name), ("x", .int u.x), ("y", .int u.y), ("hp", .int u.hp),
    ("max_hp", .int u.maxHp), ("attack", .int u.attack), ("range", .int u.range)]

end Fighter

/-- The straight distance between two cells; it fails when it is beyond the range of floats. -/
def distance (ax ay bx by' : Int) : Except Misfit Float :=
  match Binary.nearestInt? ((ax - bx) * (ax - bx) + (ay - by') * (ay - by')) with
  | some square => .ok square.sqrt
  | none => .error .intTooLarge

structure World where
  width : Int
  height : Int
  hero : Fighter
  enemies : List Fighter := []
  selected : Option String := none
  attacks : Nat := 0
deriving DecidableEq, Repr

namespace World

def initial (l : Level) : World where
  width := l.gridSize.width
  height := l.gridSize.height
  hero := .ofConfig l.hero
  enemies := l.enemies.map .ofConfig

def enemy? (w : World) (id : String) : Option Fighter := w.enemies.find? fun e => e.id == id

/-- The first enemy with the identifier that a payload gives. -/
def targeted? (w : World) (id : Value) : Option Fighter := id.text?.bind w.enemy?

def selectTarget (w : World) (id : Value) : Reaction World :=
  match w.targeted? id with
  | none => .refused (.noEnemy id)
  | some e => .changed { w with selected := some e.id } [s!"Target: {e.id}"]

/-- The hit points that an enemy has left after an attack. -/
def hpAfter (w : World) (e : Fighter) : Int := clamp (e.hp - w.hero.attack) 0 e.maxHp

def attack (w : World) (id : Value) : Reaction World :=
  match w.targeted? id with
  | none => .refused (.noEnemy id)
  | some e =>
    let hp := w.hpAfter e
    let hit := s!"{w.hero.name} hits {e.name} for {intText (e.hp - hp)} damage"
    .changed
      { w with
        enemies := w.enemies.map fun f => if f.id == e.id then { f with hp } else f
        selected := some e.id
        attacks := w.attacks + 1 }
      (if hp == 0 then [hit, s!"{e.name} is defeated"] else [hit])

def handled : List ActionKind := [.selectTarget, .attack]

def react (w : World) (a : Action) : Except Misfit (Reaction World) :=
  match a.kind with
  | .selectTarget => .ok (w.selectTarget a.payload.targetId)
  | .attack => .ok (w.attack a.payload.targetId)
  | k => .ok (.refused (.noHandler k .combat))

def toDict (w : World) : Value :=
  .dict [("width", .int w.width), ("height", .int w.height), ("hero", .dict w.hero.toEntries),
    ("enemies", .list (w.enemies.map fun e => .dict e.toEntries)),
    ("selected_target", Value.ofOptionText w.selected), ("attacks", .nat w.attacks)]

end World

def checkTarget (expected : Option String) (w : World) : Verdict :=
  let details : List (String × Value) :=
    [("selected_target", Value.ofOptionText w.selected),
      ("expected_target", Value.ofOptionText expected)]
  match w.selected with
  | none => .failed "No target was selected" details
  | some id =>
    if expected.isSome && expected != some id then
      let name := match w.enemy? id with
        | some e => e.name
        | none => id
      .failed s!"{name} is not the best target; think again" details
    else .passed s!"Good choice, {id} was the right target!" details

def checkGoal (l : Level) (w : World) (log : ActionLog) : Except Misfit Verdict :=
  match l.goal with
  | .free n => judgeFree log.size n
  | .targetSelection expected => .ok (checkTarget expected w)

end PuzzleWorlds.Combat
