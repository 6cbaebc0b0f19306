import PuzzleWorlds.Level.Header

/-! Pixel levels: a square canvas and the cells to paint, with colors if they count. -/

namespace PuzzleWorlds.Pixel

inductive Goal where
  | pixels (cells : List (Int × Int)) (colors : Option (List String))
  | free (minActions : Int)
deriving DecidableEq, Repr

structure Level where
  header : LevelHeader
  size : Int := 8
  defaultColor : String := "merah"
  goal : Goal
deriving DecidableEq, Repr

namespace Level

def decodeGoal : Decoder Goal := Decoder.tagged "type" [
  ("pixels", fun o => Goal.pixels
    <$> o.required "cells" (Decoder.nonEmpty (Decoder.list (Decoder.pair Decoder.int)))
    <*> o.withDefault "colors" none (Decoder.optional (Decoder.list Decoder.text))),
  ("free", fun o => Goal.free <$> decodeFreeGoal o)]

def decode (o : Fields) : Decoded Level :=
  Level.mk <$> LevelHeader.decode o
    <*> o.withDefault "size" 8 (Decoder.int.atLeast 1)
    <*> o.withDefault "default_color" "merah" Decoder.text
    <*> o.required "goal" decodeGoal

def dumpGoal : Goal → Value
  | .pixels cells colors =>
    .dict [("type", .text "pixels"),
      ("cells", .list (cells.map fun c => .list [.int c.1, .int c.2])),
      ("colors", match colors with
        | some cs => .list (cs.map .text)
        | none => .null)]
  | .free n => dumpFreeGoal n

def dump (l : Level) : List (String × Value) :=
  l.header.dump ++ [("domain", .text "pixel"), ("size", .int l.size),
    ("default_color", .text l.defaultColor), ("goal", dumpGoal l.goal)]

end Level

end PuzzleWorlds.Pixel
