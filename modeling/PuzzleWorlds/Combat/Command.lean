import PuzzleWorlds.Combat.World
import PuzzleWorlds.Text.Casing
import PuzzleWorlds.Command

/-! What a program can do in the arena. A target is an enemy's identifier or its record; an attack
without one goes to the enemy selected last. -/

namespace PuzzleWorlds.Combat

inductive Command where
  | attack | distanceTo | getHp | getPosition | inRange | selectTarget
deriving DecidableEq, Repr

structure Shadow where
  hero : Fighter
  enemies : List Fighter
  selected : Option String := none
deriving DecidableEq, Repr

namespace Shadow

/-- The enemies by identifier: one given again replaces the earlier one in its place. -/
def roster : List Fighter → List Fighter :=
  List.foldl (fun l e =>
    if l.any fun f => f.id == e.id then l.map fun f => if f.id == e.id then e else f
    else l ++ [e]) []

def initial (l : Level) : Shadow where
  hero := .ofConfig l.hero
  enemies := roster (l.enemies.map .ofConfig)

/-- The identifier that a target stands for; a record gives its own. -/
def targetId : Value → Value
  | .dict l | .record l => Value.ofOption (Value.lookup l "id")
  | v => v

def target (s : Shadow) (v : Value) : Except Fault Fighter :=
  let id := targetId v
  let found := if id.isNull then none else s.enemies.find? fun e => e.id == id.display
  match found with
  | some e => .ok e
  | none => .error (.unknownTarget id)

def distanceTo (s : Shadow) (e : Fighter) : Except Fault Float :=
  match distance s.hero.x s.hero.y e.x e.y with
  | .ok d => .ok d
  | .error m => .error (.misfit m)

end Shadow

namespace Command

def all : List Command := [attack, distanceTo, getHp, getPosition, inRange, selectTarget]

def spec : Command → CommandSpec
  | attack =>
    { name := "attack", aliases := ["serang_target", "attack_target", "combatAttack"]
      doc := "Attack an enemy (the selected target when none is given)."
      params := [⟨"target", some .null⟩] }
  | distanceTo =>
    { name := "distance_to", aliases := ["jarak_ke", "combatDistance"], query := true
      doc := "Distance from the hero to an enemy.", params := [⟨"target", none⟩] }
  | getHp =>
    { name := "get_hp", aliases := ["ambil_hp", "combatGetHp"], query := true
      doc := "Starting hit points of an enemy.", params := [⟨"target", none⟩] }
  | getPosition =>
    { name := "get_position", aliases := ["ambil_posisi", "combatGetPosition"], query := true
      doc := "x or y coordinate of an enemy."
      params := [⟨"target", none⟩, ⟨"axis", some "x"⟩] }
  | inRange =>
    { name := "in_range", aliases := ["dalam_jangkauan", "combatInRange"], query := true
      doc := "Whether an enemy is within the hero's attack range."
      params := [⟨"target", none⟩] }
  | selectTarget =>
    { name := "select_target", aliases := ["pilih_target", "combatSelectTarget"]
      doc := "Choose an enemy as the target.", params := [⟨"target", none⟩] }

/-- The coordinate of an enemy along an axis. -/
def coordinate (e : Fighter) (axis : Value) : Except Fault Value :=
  if !axis.writable then .error (.misfit .unwritable) else
  match lowerText axis.display with
  | "x" => .ok (.int e.x)
  | "y" => .ok (.int e.y)
  | other => .error (.unknownAxis other)

/-- The target of an attack: the given one, else the enemy selected last. -/
def attacked (s : Shadow) (v : Value) : Except Fault Value :=
  match v, s.selected with
  | .null, some id => .ok (.text id)
  | .null, none => .error .noTargetSelected
  | v, _ => .ok v

def call (s : Shadow) (c : Command) (a : Arguments) : Except Fault (Response Shadow) := do
  match c with
  | attack =>
    let e ← s.target (← attacked s (a.arg 0))
    return .acts { s with selected := some e.id } (.attack e.id)
  | distanceTo => return .answers (.float (← s.distanceTo (← s.target (a.arg 0))))
  | getHp => return .answers (.int (← s.target (a.arg 0)).hp)
  | getPosition =>
    let e ← s.target (a.arg 0)
    return .answers (← coordinate e (a.arg 1))
  | inRange =>
    let d ← s.distanceTo (← s.target (a.arg 0))
    return .answers (.bool (compareIntFloat? s.hero.range d != some .lt))
  | selectTarget =>
    let e ← s.target (a.arg 0)
    return .acts { s with selected := some e.id } (.selectTarget e.id)

end Command

/-- The lists that a program can go through: the enemies, and the hero alone. -/
def collection? (s : Shadow) (name : String) : Option (List Value) :=
  match name with
  | "enemies" => some (s.enemies.map fun e => .record e.toEntries)
  | "hero" => some [.record s.hero.toEntries]
  | _ => none

end PuzzleWorlds.Combat
