import PuzzleWorlds.Music.Note
import PuzzleWorlds.Command

/-! What a program can play. -/

namespace PuzzleWorlds.Music

inductive Command where
  | playNote | rest
deriving DecidableEq, Repr

namespace Command

def all : List Command := [playNote, rest]

def spec : Command → CommandSpec
  | playNote =>
    { name := "play_note", aliases := ["mainkan", "musicPlayNote"], doc := "Play one note."
      params := [⟨"note", none⟩] }
  | rest =>
    { name := "rest", aliases := ["istirahat", "musicRest"]
      doc := "Stay silent for a number of beats.", params := [⟨"beats", some 1⟩] }

def call (c : Command) (a : Arguments) : Except Fault (Response Unit) := do
  match c with
  | playNote => return .acts () (.playNote (← normalizeNote (a.arg 0)))
  | rest =>
    let beats ← asNumber "beats" (a.arg 0)
    if beats.isNotPositive then throw (.emptyRest beats)
    return .acts () (.rest beats)

end Command

end PuzzleWorlds.Music
