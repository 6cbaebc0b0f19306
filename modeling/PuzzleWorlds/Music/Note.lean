import PuzzleWorlds.Fault
import PuzzleWorlds.Text.Blank
import PuzzleWorlds.Text.Casing

/-! The eight notes, by letter or by solfege name. -/

namespace PuzzleWorlds.Music

def notes : List String := ["C4", "D4", "E4", "F4", "G4", "A4", "B4", "C5"]

def solfege : List (String × String) :=
  [("do", "C4"), ("re", "D4"), ("mi", "E4"), ("fa", "F4"), ("sol", "G4"), ("la", "A4"),
    ("si", "B4"), ("do_tinggi", "C5")]

/-- The note that a program names, in any case of letters. -/
def normalizeNote (v : Value) : Except Fault String :=
  let text := strip v.plainText
  match solfege.find? fun n => n.1 == lowerText text with
  | some n => .ok n.2
  | none =>
    if notes.contains (upperText text) then .ok (upperText text)
    else .error (.unknownNote v notes)

end PuzzleWorlds.Music
