import PuzzleWorlds.Level.Header

/-! Music levels: notes to play in any order, in sequence, or again and again. -/

namespace PuzzleWorlds.Music

inductive Goal where
  | notes (required : List String) (minNotes : Option Int)
  | sequence (required : List String)
  | repetition (minNotes : Int) (note : Option String)
  | free (minActions : Int)
deriving DecidableEq, Repr

structure Level where
  header : LevelHeader
  goal : Goal
deriving DecidableEq, Repr

namespace Level

def decodeGoal : Decoder Goal := Decoder.tagged "type" [
  ("notes", fun o => Goal.notes <$> o.withDefault "required" [] (Decoder.list Decoder.text)
    <*> o.withDefault "min_notes" none (Decoder.optional (Decoder.int.atLeast 1))),
  ("sequence", fun o => Goal.sequence
    <$> o.required "required" (Decoder.nonEmpty (Decoder.list Decoder.text))),
  ("repeat", fun o => Goal.repetition <$> o.withDefault "min_notes" 3 (Decoder.int.atLeast 1)
    <*> o.withDefault "note" none (Decoder.optional Decoder.text)),
  ("free", fun o => Goal.free <$> decodeFreeGoal o)]

def decode (o : Fields) : Decoded Level :=
  Level.mk <$> LevelHeader.decode o <*> o.required "goal" decodeGoal

def dumpGoal : Goal → Value
  | .notes required n =>
    .dict [("type", .text "notes"), ("required", .list (required.map .text)),
      ("min_notes", Value.ofOptionInt n)]
  | .sequence required =>
    .dict [("type", .text "sequence"), ("required", .list (required.map .text))]
  | .repetition n note =>
    .dict [("type", .text "repeat"), ("min_notes", .int n), ("note", Value.ofOptionText note)]
  | .free n => dumpFreeGoal n

def dump (l : Level) : List (String × Value) :=
  l.header.dump ++ [("domain", .text "music"), ("goal", dumpGoal l.goal)]

end Level

end PuzzleWorlds.Music
