import PuzzleWorlds.Pixel.Level
import PuzzleWorlds.Pixel.Color
import PuzzleWorlds.Reaction
import PuzzleWorlds.Verdict
import PuzzleWorlds.Grid

/-! The canvas: a cursor that goes right and down, the current color and the painted cells. As in
the build area, a painted cell is named by the numbers that its action gave. -/

namespace PuzzleWorlds.Pixel

structure World where
  size : Int
  cursor : Int × Int := (0, 0)
  color : Value := .text "#ff0000"
  pixels : List (List Value × Value) := []
deriving Repr

namespace World

def initial (l : Level) : Except Fault World := do
  return { size := l.size, color := .text (← colorCode (.text l.defaultColor)) }

def cellParts (c : Int × Int) : List Value := [.int c.1, .int c.2]

/-- Whether `0 ≤ v < size`. -/
def within (v : Value) (size : Int) : Except Misfit Bool := do
  if ← Value.ordered .le 0 v then Value.ordered .lt v (.int size) else return false

def colorAt? (w : World) (cell : List Value) : Option Value :=
  (w.pixels.find? fun p => Value.sameItems p.1 cell).map (·.2)

/-- Sets a cell's color; a new cell goes to the end. -/
def paint (cell : List Value) (color : Value) :
    List (List Value × Value) → List (List Value × Value)
  | [] => [(cell, color)]
  | p :: rest =>
    if Value.sameItems p.1 cell then (p.1, color) :: rest else p :: paint cell color rest

def draw (w : World) (p : Payload) : Except Misfit (Reaction World) := do
  let parts ← (p.position.orElse (.tuple (cellParts w.cursor))).parts
  match ← (Value.tuple parts).unpack 2 with
  | [x, y] =>
    let outside : Reaction World := .refused (.pixelOutside x y)
    if !(← within x w.size) then return outside
    if !(← within y w.size) then return outside
    let color := p.color.orElse w.color
    return .changed { w with pixels := paint [x, y] color w.pixels }
      [s!"Drew {color.display} at ({x.display}, {y.display})"]
  | l => throw (.tooFewParts 2 l.length)

def move (w : World) (p : Payload) : Except Misfit (Reaction World) := do
  let last := w.size - 1
  let x := clamp (w.cursor.1 + (← (p.dx.orElse 0).toInt)) 0 last
  let y := clamp (w.cursor.2 + (← (p.dy.orElse 0).toInt)) 0 last
  return .changed { w with cursor := (x, y) } [s!"Cursor at ({intText x}, {intText y})"]

def setColor (w : World) (color : Value) : Reaction World :=
  if color.truthy then .changed { w with color } [] else .refused .noColor

def handled : List ActionKind := [.drawPixel, .move, .setColor]

def react (w : World) (a : Action) : Except Misfit (Reaction World) :=
  match a.kind with
  | .drawPixel => w.draw a.payload
  | .move => w.move a.payload
  | .setColor => .ok (w.setColor a.payload.color)
  | k => .ok (.refused (.noHandler k .pixel))

/-- The order of two cells, coordinate by coordinate. -/
def cellLe (a b : List Value) : Bool :=
  match Value.orderItems a b with
  | .ok (some .gt) => false
  | _ => true

def pixelsValue (w : World) : Value :=
  if w.pixels.isEmpty then .dict [] else
  .list ((w.pixels.mergeSort fun a b => cellLe a.1 b.1).map fun p => .list [.list p.1, p.2])

def toDict (w : World) : Value :=
  .dict [("size", .int w.size), ("cursor", .list (cellParts w.cursor)), ("color", w.color),
    ("pixels", w.pixelsValue)]

end World

/-- The cells whose color is not the wanted one; a wanted color must be a known paint. -/
def wrongCells (w : World) : List ((Int × Int) × String) → Except Fault (List (Int × Int))
  | [] => .ok []
  | (cell, wanted) :: rest => do
    let code ← colorCode (.text wanted)
    let others ← wrongCells w rest
    let color := Value.ofOption (w.colorAt? (World.cellParts cell))
    return if Value.same color (.text code) then others else cell :: others

def cellsValue (cells : List (Int × Int)) : Value :=
  .list (cells.map fun c => .list (World.cellParts c))

def checkPixels (cells : List (Int × Int)) (colors : Option (List String)) (w : World) :
    Except Fault Verdict := do
  let missing := cells.filter fun c => (w.colorAt? (World.cellParts c)).isNone
  let details : List (String × Value) :=
    [("drawn", .nat w.pixels.length), ("missing", cellsValue missing)]
  if !missing.isEmpty then
    return .failed s!"{natText missing.length} pixel(s) of the picture are still empty" details
  let wrong ← match colors with
    | some cs => wrongCells w (cells.zip cs)
    | none => pure []
  if wrong.isEmpty then return .passed "Beautiful picture!" details
  return .failed s!"{natText wrong.length} pixel(s) have the wrong color"
    (("wrong_color", cellsValue wrong) :: details)

def checkGoal (l : Level) (w : World) (log : ActionLog) : Except Fault Verdict :=
  match l.goal with
  | .free n => (judgeFree log.size n).mapError .misfit
  | .pixels cells colors => checkPixels cells colors w

end PuzzleWorlds.Pixel
