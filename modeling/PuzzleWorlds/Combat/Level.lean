import PuzzleWorlds.Level.Header

/-! Combat levels: an arena with a hero and enemies, one of whom is to be picked. -/

namespace PuzzleWorlds.Combat

structure Size where
  width : Int := 8
  height : Int := 8
deriving DecidableEq, Repr

/-- A unit as a level describes it; its hit points are capped by `maxHp`, or by their start. -/
structure UnitConfig where
  id : String
  name : String
  x : Int
  y : Int
  hp : Int
  attack : Int := 0
  range : Int := 1
  maxHp : Option Int := none
deriving DecidableEq, Repr

def UnitConfig.hpCap (u : UnitConfig) : Int := u.maxHp.getD u.hp

def standardHero : UnitConfig :=
  { id := "hero", name := "Pahlawan", x := 2, y := 4, hp := 100, attack := 25, range := 3 }

inductive Goal where
  | targetSelection (expected : Option String)
  | free (minActions : Int)
deriving DecidableEq, Repr

structure Level where
  header : LevelHeader
  gridSize : Size := {}
  hero : UnitConfig := standardHero
  enemies : List UnitConfig := []
  goal : Goal
deriving DecidableEq, Repr

namespace Level

def decodeSize : Decoder Size := Decoder.object "GridSize2D" fun o =>
  Size.mk <$> o.withDefault "width" 8 (Decoder.int.atLeast 1)
    <*> o.withDefault "height" 8 (Decoder.int.atLeast 1)

def decodeUnit : Decoder UnitConfig := Decoder.object "UnitConfig" fun o =>
  UnitConfig.mk <$> o.required "id" Decoder.text
    <*> o.required "name" Decoder.text
    <*> o.required "x" Decoder.int
    <*> o.required "y" Decoder.int
    <*> o.required "hp" (Decoder.int.atLeast 0)
    <*> o.withDefault "attack" 0 (Decoder.int.atLeast 0)
    <*> o.withDefault "range" 1 (Decoder.int.atLeast 0)
    <*> o.withDefault "max_hp" none (Decoder.optional Decoder.int)

def decodeGoal : Decoder Goal := Decoder.tagged "type" [
  ("targetSelection", fun o => Goal.targetSelection
    <$> o.withDefault "expected_target" none (Decoder.optional Decoder.text)),
  ("free", fun o => Goal.free <$> decodeFreeGoal o)]

def decode (o : Fields) : Decoded Level :=
  Level.mk <$> LevelHeader.decode o
    <*> o.withDefault "grid_size" {} decodeSize
    <*> o.withDefault "hero" standardHero decodeUnit
    <*> o.withDefault "enemies" [] (Decoder.list decodeUnit)
    <*> o.required "goal" decodeGoal

def dumpUnit (u : UnitConfig) : Value :=
  .dict [("id", .text u.id), ("name", .text u.name), ("x", .int u.x), ("y", .int u.y),
    ("hp", .int u.hp), ("attack", .int u.attack), ("range", .int u.range),
    ("max_hp", Value.ofOptionInt u.maxHp)]

def dumpGoal : Goal → Value
  | .targetSelection t =>
    .dict [("type", .text "targetSelection"), ("expected_target", Value.ofOptionText t)]
  | .free n => dumpFreeGoal n

def dump (l : Level) : List (String × Value) :=
  l.header.dump ++ [("domain", .text "combat"),
    ("grid_size", .dict [("width", .int l.gridSize.width), ("height", .int l.gridSize.height)]),
    ("hero", dumpUnit l.hero), ("enemies", .list (l.enemies.map dumpUnit)),
    ("goal", dumpGoal l.goal)]

end Level

end PuzzleWorlds.Combat
