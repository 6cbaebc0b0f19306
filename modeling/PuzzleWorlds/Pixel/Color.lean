import PuzzleWorlds.Fault
import PuzzleWorlds.Text.Blank
import PuzzleWorlds.Text.Casing

/-! The eleven paints of the canvas, by name or by code. -/

namespace PuzzleWorlds.Pixel

def paints : List (String × String) :=
  [("merah", "#ff0000"), ("hijau", "#00ff00"), ("biru", "#0000ff"), ("kuning", "#ffff00"),
    ("oranye", "#ff8800"), ("ungu", "#9900ff"), ("pink", "#ff69b4"), ("coklat", "#8b4513"),
    ("hitam", "#000000"), ("putih", "#ffffff"), ("abu", "#808080")]

/-- The code of a paint, if the text names one. -/
def paintCode? (text : String) : Option String :=
  let key := lowerText (strip text)
  match paints.find? fun p => p.1 == key with
  | some p => some p.2
  | none => if paints.any fun p => p.2 == key then some key else none

def colorCode (v : Value) : Except Fault String :=
  match paintCode? v.display with
  | some c => .ok c
  | none => .error (.unknownPaint v (paints.map (·.1)))

end PuzzleWorlds.Pixel
