import PuzzleWorlds.Building.World
import PuzzleWorlds.Building.Color
import PuzzleWorlds.Command

/-! What a program can do in the build area. The cursor and the color are kept, so that a block is
recorded with its cell and its color. -/

namespace PuzzleWorlds.Building

inductive Command where
  | goto | moveX | moveY | moveZ | placeBlock | removeBlock | setColor
deriving DecidableEq, Repr

structure Shadow where
  size : Size
  cursor : Cell
  color : Value
deriving Repr

namespace Shadow

def initial (l : Level) : Shadow :=
  let w := World.initial l
  ⟨l.gridSize, w.cursor, w.color⟩

def clampCell (s : Shadow) (x y z : Int) : Cell :=
  ⟨clamp x 0 (s.size.width - 1), clamp y 0 (s.size.height - 1), clamp z 0 (s.size.depth - 1)⟩

def moved (s : Shadow) (dx dy dz : Int) : Shadow :=
  { s with cursor := s.clampCell (s.cursor.x + dx) (s.cursor.y + dy) (s.cursor.z + dz) }

def cell (s : Shadow) : Value := .tuple (World.cellParts s.cursor)

end Shadow

namespace Command

def all : List Command := [goto, moveX, moveY, moveZ, placeBlock, removeBlock, setColor]

def spec : Command → CommandSpec
  | goto =>
    { name := "goto", aliases := ["ke_posisi", "buildGoto"]
      doc := "Jump the cursor to (x, y, z).", params := [⟨"x", none⟩, ⟨"y", none⟩, ⟨"z", none⟩] }
  | moveX =>
    { name := "move_x", aliases := ["gerak_x", "buildMoveX"]
      doc := "Move the cursor left/right.", params := [⟨"distance", some 1⟩] }
  | moveY =>
    { name := "move_y", aliases := ["gerak_y", "buildMoveY"]
      doc := "Move the cursor up/down (height).", params := [⟨"distance", some 1⟩] }
  | moveZ =>
    { name := "move_z", aliases := ["gerak_z", "buildMoveZ"]
      doc := "Move the cursor forward/back.", params := [⟨"distance", some 1⟩] }
  | placeBlock =>
    { name := "place_block", aliases := ["taruh_blok", "buildPlaceBlock"]
      doc := "Place a block of the current color at the cursor." }
  | removeBlock =>
    { name := "remove_block", aliases := ["hapus_blok", "buildRemoveBlock"]
      doc := "Remove the block at the cursor." }
  | setColor =>
    { name := "set_color", aliases := ["warna", "buildSetColor"]
      doc := "Choose the color for the next blocks.", params := [⟨"color", none⟩] }

def moveBy (s : Shadow) (dx dy dz : Int) : Response Shadow :=
  .acts (s.moved dx dy dz) (.move (.int dx) (.int dy) (.int dz))

def call (s : Shadow) (c : Command) (a : Arguments) : Except Fault (Response Shadow) := do
  match c with
  | goto =>
    let x ← asInt "x" (a.arg 0)
    let y ← asInt "y" (a.arg 1)
    let z ← asInt "z" (a.arg 2)
    return .acts { s with cursor := s.clampCell x y z } (.goto x y z)
  | moveX => return moveBy s (← asInt "distance" (a.arg 0)) 0 0
  | moveY => return moveBy s 0 (← asInt "distance" (a.arg 0)) 0
  | moveZ => return moveBy s 0 0 (← asInt "distance" (a.arg 0))
  | placeBlock => return .acts s (.placeBlock s.cell s.color)
  | removeBlock => return .acts s (.removeBlock s.cell)
  | setColor =>
    let color ← resolveColor (a.arg 0)
    return .acts { s with color := .text color } (.setColor color)

end Command

end PuzzleWorlds.Building
