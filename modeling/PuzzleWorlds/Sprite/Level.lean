import PuzzleWorlds.Level.Header

/-! Sprite levels: figures on a stage, the first of which is animated. Places and sizes are
measures: a whole number as a default, a float when a document gives it. -/

namespace PuzzleWorlds.Sprite

structure Figure where
  id : String
  emoji : String := ""
  x : Value := 0
  y : Value := 0
deriving Repr

inductive Goal where
  | position (x y : Option Float) (tolerance : Value)
  | action (kind : String)
  | rotation (degrees : Value)
  | scale (percent : Float) (tolerance : Value)
  | speech (text : Option String)
  | free (minActions : Int)
deriving Repr

structure Level where
  header : LevelHeader
  /-- The animated figure. -/
  lead : Figure
  others : List Figure := []
  goal : Goal
deriving Repr

namespace Level

def figures (l : Level) : List Figure := l.lead :: l.others

def measure (d : Decoder Float) : Decoder Value := fun v => (d v).map .float

def decodeFigure : Decoder Figure := Decoder.object "SpriteConfig" fun o =>
  Figure.mk <$> o.required "id" Decoder.text
    <*> o.withDefault "emoji" "" Decoder.text
    <*> o.withDefault "x" 0 (measure Decoder.float)
    <*> o.withDefault "y" 0 (measure Decoder.float)

/-- A list with at least one item, as its first item and the rest. -/
def decodeFigures : Decoder (Figure × List Figure) := fun v =>
  (Decoder.list decodeFigure v).andThen fun
    | [] => .fail (.tooShort 1 0) v
    | lead :: others => .ok (lead, others)

def decodeGoal : Decoder Goal := Decoder.tagged "type" [
  ("position", fun o => Goal.position
    <$> o.withDefault "x" none (Decoder.optional Decoder.float)
    <*> o.withDefault "y" none (Decoder.optional Decoder.float)
    <*> o.withDefault "tolerance" 50 (measure (Decoder.float.floatAtLeast 0))),
  ("action", fun o => Goal.action <$> o.required "action" Decoder.text),
  ("rotation", fun o => Goal.rotation
    <$> o.withDefault "degrees" 360 (measure (Decoder.float.floatAbove 0))),
  ("scale", fun o => Goal.scale <$> o.required "percent" (Decoder.float.floatAbove 0)
    <*> o.withDefault "tolerance" 0 (measure (Decoder.float.floatAtLeast 0))),
  ("speech", fun o => Goal.speech
    <$> o.withDefault "text" none (Decoder.optional Decoder.text)),
  ("free", fun o => Goal.free <$> decodeFreeGoal o)]

def decode (o : Fields) : Decoded Level :=
  (fun h fs goal => Level.mk h fs.1 fs.2 goal) <$> LevelHeader.decode o
    <*> o.required "sprites" decodeFigures
    <*> o.required "goal" decodeGoal

def dumpFigure (f : Figure) : Value :=
  .dict [("id", .text f.id), ("emoji", .text f.emoji), ("x", f.x.asMeasure), ("y", f.y.asMeasure)]

def dumpOptional : Option Float → Value
  | some x => Value.ofMeasure x
  | none => .null

def dumpGoal : Goal → Value
  | .position x y tolerance =>
    .dict [("type", .text "position"), ("x", dumpOptional x), ("y", dumpOptional y),
      ("tolerance", tolerance.asMeasure)]
  | .action kind => .dict [("type", .text "action"), ("action", .text kind)]
  | .rotation degrees => .dict [("type", .text "rotation"), ("degrees", degrees.asMeasure)]
  | .scale percent tolerance =>
    .dict [("type", .text "scale"), ("percent", Value.ofMeasure percent),
      ("tolerance", tolerance.asMeasure)]
  | .speech text => .dict [("type", .text "speech"), ("text", Value.ofOptionText text)]
  | .free n => dumpFreeGoal n

def dump (l : Level) : List (String × Value) :=
  l.header.dump ++ [("domain", .text "sprite"), ("sprites", .list (l.figures.map dumpFigure)),
    ("goal", dumpGoal l.goal)]

end Level

end PuzzleWorlds.Sprite
