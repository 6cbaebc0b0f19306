import PuzzleWorlds.Fault
import PuzzleWorlds.Text.Blank
import PuzzleWorlds.Text.Casing

/-! Colors of blocks: nine names, or `#` with six hexadecimal digits. -/

namespace PuzzleWorlds.Building

def namedColors : List (String × String) :=
  [("merah", "#e74c3c"), ("oranye", "#e67e22"), ("kuning", "#f1c40f"), ("hijau", "#2ecc71"),
    ("biru", "#3498db"), ("ungu", "#9b59b6"), ("putih", "#ecf0f1"), ("coklat", "#795548"),
    ("abu_abu", "#95a5a6")]

def isHexDigit (c : Char) : Bool :=
  c.isDigit || ('a' ≤ c && c ≤ 'f') || ('A' ≤ c && c ≤ 'F')

def isHexColor (s : String) : Bool :=
  match s.toList with
  | '#' :: digits => digits.length == 6 && digits.all isHexDigit
  | _ => false

/-- The written form of a color that a program names. -/
def resolveColor (v : Value) : Except Fault String :=
  let text := strip v.display
  match namedColors.find? fun c => c.1 == lowerText text with
  | some c => .ok c.2
  | none =>
    if isHexColor text then .ok (lowerText text)
    else .error (.unknownBlockColor v (namedColors.map (·.1)))

end PuzzleWorlds.Building
