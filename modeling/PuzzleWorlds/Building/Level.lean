import PuzzleWorlds.Level.Header
import PuzzleWorlds.Text.Casing

/-! Building levels: a box of cells, the colors on offer, the cursor's start and the structure to
build. -/

namespace PuzzleWorlds.Building

structure Size where
  width : Int := 5
  height : Int := 5
  depth : Int := 5
deriving DecidableEq, Repr

/-- A cell of the build area. -/
structure Cell where
  x : Int
  y : Int
  z : Int
deriving DecidableEq, Repr

structure ColoredCell where
  cell : Cell
  color : Option String := none
deriving DecidableEq, Repr

/-- Blocks must stand on every target cell. With `exact` no other cell may hold a block, with
`matchColors` the colors count too, and `minBlocks` asks for a number of blocks. -/
structure Structure where
  target : List ColoredCell := []
  exact : Bool := false
  matchColors : Bool := false
  minBlocks : Option Int := none
deriving DecidableEq, Repr

inductive Goal where
  | structureMatch (wanted : Structure)
  | free (minActions : Int)
deriving DecidableEq, Repr

/-- The color of blocks when a level names none. -/
def standardColor : String := "#e74c3c"

structure Level where
  header : LevelHeader
  gridSize : Size := {}
  availableColors : List String := [standardColor]
  start : ColoredCell := ⟨⟨0, 0, 0⟩, none⟩
  goal : Goal
deriving DecidableEq, Repr

namespace Level

/-- The color at the start: that of the start cell, else the first one on offer. -/
def defaultColor (l : Level) : String :=
  match l.start.color with
  | some c => if c.isEmpty then offered else c
  | none => offered
where
  offered := l.availableColors.headD standardColor

def decodeSize : Decoder Size := Decoder.object "GridSize3D" fun o =>
  Size.mk <$> o.withDefault "width" 5 (Decoder.int.atLeast 1)
    <*> o.withDefault "height" 5 (Decoder.int.atLeast 1)
    <*> o.withDefault "depth" 5 (Decoder.int.atLeast 1)

def decodeCell : Decoder ColoredCell := Decoder.object "BlockCell" fun o =>
  (fun x y z color => ⟨⟨x, y, z⟩, color⟩) <$> o.required "x" Decoder.int
    <*> o.required "y" Decoder.int
    <*> o.required "z" Decoder.int
    <*> o.withDefault "color" none (Decoder.optional Decoder.text)

def decodeGoal : Decoder Goal := Decoder.tagged "type" [
  ("structureMatch", fun o => (fun t e m n => Goal.structureMatch ⟨t, e, m, n⟩)
    <$> o.withDefault "target" [] (Decoder.list decodeCell)
    <*> o.withDefault "exact" false Decoder.bool
    <*> o.withDefault "match_colors" false Decoder.bool
    <*> o.withDefault "min_blocks" none (Decoder.optional (Decoder.int.atLeast 1))),
  ("free", fun o => Goal.free <$> decodeFreeGoal o)]

def decode (o : Fields) : Decoded Level :=
  Level.mk <$> LevelHeader.decode o
    <*> o.withDefault "grid_size" {} decodeSize
    <*> o.withDefault "available_colors" [standardColor] (Decoder.list Decoder.text)
    <*> o.withDefault "start" ⟨⟨0, 0, 0⟩, none⟩ decodeCell
    <*> o.required "goal" decodeGoal

def dumpCell (c : ColoredCell) : Value :=
  .dict [("x", .int c.cell.x), ("y", .int c.cell.y), ("z", .int c.cell.z),
    ("color", Value.ofOptionText c.color)]

def dumpGoal : Goal → Value
  | .structureMatch g =>
    .dict [("type", .text "structureMatch"), ("target", .list (g.target.map dumpCell)),
      ("exact", .bool g.exact), ("match_colors", .bool g.matchColors),
      ("min_blocks", Value.ofOptionInt g.minBlocks)]
  | .free n => dumpFreeGoal n

def dump (l : Level) : List (String × Value) :=
  l.header.dump ++ [("domain", .text "building"),
    ("grid_size", .dict [("width", .int l.gridSize.width), ("height", .int l.gridSize.height),
      ("depth", .int l.gridSize.depth)]),
    ("available_colors", .list (l.availableColors.map .text)),
    ("start", dumpCell l.start), ("goal", dumpGoal l.goal)]

end Level

end PuzzleWorlds.Building
