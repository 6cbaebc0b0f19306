import PuzzleWorlds.Pixel.Level
import PuzzleWorlds.Pixel.Color
import PuzzleWorlds.Command

/-! What a program can do on the canvas. The cursor and the color are kept, so that a pixel is
recorded with its cell and its color. -/

namespace PuzzleWorlds.Pixel

inductive Command where
  | draw | moveDown | moveRight | setColor
deriving DecidableEq, Repr

structure Shadow where
  size : Int
  cursor : Int × Int := (0, 0)
  color : String
deriving DecidableEq, Repr

def Shadow.initial (l : Level) : Except Fault Shadow := do
  return { size := l.size, color := ← colorCode (.text l.defaultColor) }

namespace Command

def all : List Command := [draw, moveDown, moveRight, setColor]

def spec : Command → CommandSpec
  | draw =>
    { name := "draw", aliases := ["gambar", "pixelDraw"]
      doc := "Paint the cursor cell with the current color." }
  | moveDown =>
    { name := "move_down", aliases := ["geser_bawah", "moveDown"]
      doc := "Move the cursor one cell down." }
  | moveRight =>
    { name := "move_right", aliases := ["geser_kanan", "moveRight"]
      doc := "Move the cursor one cell right." }
  | setColor =>
    { name := "set_color", aliases := ["warna", "setColor"], doc := "Choose a named color."
      params := [⟨"name", none⟩] }

def call (s : Shadow) (c : Command) (a : Arguments) : Except Fault (Response Shadow) := do
  let (x, y) := s.cursor
  match c with
  | draw => return .acts s (.drawPixel (.tuple [.int x, .int y]) s.color)
  | moveDown => return .acts { s with cursor := (x, min (y + 1) (s.size - 1)) } (.move 0 1 0)
  | moveRight => return .acts { s with cursor := (min (x + 1) (s.size - 1), y) } (.move 1 0 0)
  | setColor =>
    let color ← colorCode (a.arg 0)
    return .acts { s with color } (.setColor color)

end Command

end PuzzleWorlds.Pixel
