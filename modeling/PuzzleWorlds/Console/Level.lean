import PuzzleWorlds.Level.Header

/-! Console levels: lines that a program has to print. -/

namespace PuzzleWorlds.Console

inductive Goal where
  | output (expected : List String)
  | free (minActions : Int)
deriving DecidableEq, Repr

structure Level where
  header : LevelHeader
  goal : Goal
deriving DecidableEq, Repr

namespace Level

def decodeGoal : Decoder Goal := Decoder.tagged "type" [
  ("output", fun o => Goal.output
    <$> o.required "expected" (Decoder.nonEmpty (Decoder.list Decoder.text))),
  ("free", fun o => Goal.free <$> decodeFreeGoal o)]

def decode (o : Fields) : Decoded Level :=
  Level.mk <$> LevelHeader.decode o <*> o.required "goal" decodeGoal

def dumpGoal : Goal → Value
  | .output lines => .dict [("type", .text "output"), ("expected", .list (lines.map .text))]
  | .free n => dumpFreeGoal n

def dump (l : Level) : List (String × Value) :=
  l.header.dump ++ [("domain", .text "math"), ("goal", dumpGoal l.goal)]

end Level

end PuzzleWorlds.Console
