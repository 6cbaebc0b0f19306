import PuzzleWorlds.Building.Level
import PuzzleWorlds.Reaction
import PuzzleWorlds.Verdict
import PuzzleWorlds.Grid

/-! The build area: a cursor, the current color and the blocks by cell. The coordinates of a block
are the numbers that its action gave, so `1` and `1.0` are one cell; the first spelling stays. -/

namespace PuzzleWorlds.Building

structure World where
  width : Int
  height : Int
  depth : Int
  cursor : Cell := ⟨0, 0, 0⟩
  color : Value := .text standardColor
  blocks : List (List Value × Value) := []
deriving Repr

namespace World

def clampCell (w : World) (x y z : Int) : Cell :=
  ⟨clamp x 0 (w.width - 1), clamp y 0 (w.height - 1), clamp z 0 (w.depth - 1)⟩

def initial (l : Level) : World :=
  let w : World :=
    { width := l.gridSize.width, height := l.gridSize.height, depth := l.gridSize.depth
      color := .text (lowerText l.defaultColor) }
  { w with cursor := w.clampCell l.start.cell.x l.start.cell.y l.start.cell.z }

def cellParts (c : Cell) : List Value := [.int c.x, .int c.y, .int c.z]

/-- The cell that an action names, or the cursor's. -/
def cellOf (w : World) (position : Value) : Except Misfit (List Value) :=
  (position.orElse (.tuple (cellParts w.cursor))).parts

/-- Whether `0 ≤ v < size`. -/
def within (v : Value) (size : Int) : Except Misfit Bool := do
  if ← Value.ordered .le 0 v then Value.ordered .lt v (.int size) else return false

def contains (w : World) (cell : List Value) : Except Misfit Bool := do
  match cell with
  | [x, y, z] =>
    if !(← within x w.width) then return false
    if !(← within y w.height) then return false
    within z w.depth
  | _ => return false

def colorAt? (w : World) (cell : List Value) : Option Value :=
  (w.blocks.find? fun b => Value.sameItems b.1 cell).map (·.2)

/-- Sets a key's value; a new key goes to the end. -/
def put (cell : List Value) (color : Value) : List (List Value × Value) → List (List Value × Value)
  | [] => [(cell, color)]
  | b :: rest => if Value.sameItems b.1 cell then (b.1, color) :: rest else b :: put cell color rest

def placeBlock (w : World) (p : Payload) : Except Misfit (Reaction World) := do
  let cell ← w.cellOf p.position
  if !(← w.contains cell) then return .refused (.blockOutside (.tuple cell))
  let color := p.color.orElse w.color
  return .changed { w with blocks := put cell color w.blocks }
    [s!"Placed {color.display} block at {(Value.tuple cell).display}"]

def removeBlock (w : World) (p : Payload) : Except Misfit (Reaction World) := do
  let cell ← w.cellOf p.position
  Value.keyedItems cell
  let place := (Value.tuple cell).display
  if (w.colorAt? cell).isNone then return .changed w [s!"No block to remove at {place}"]
  return .changed { w with blocks := w.blocks.filter fun b => !Value.sameItems b.1 cell }
    [s!"Removed block at {place}"]

def cellText (c : Cell) : String := (Value.tuple (cellParts c)).display

def toCell (w : World) (cursor : Cell) : Reaction World :=
  .changed { w with cursor } [s!"Cursor at {cellText cursor}"]

def move (w : World) (p : Payload) : Except Misfit (Reaction World) := do
  let dx ← (p.dx.orElse 0).toInt
  let dy ← (p.dy.orElse 0).toInt
  let dz ← (p.dz.orElse 0).toInt
  return w.toCell (w.clampCell (w.cursor.x + dx) (w.cursor.y + dy) (w.cursor.z + dz))

def goto (w : World) (position : Value) : Except Misfit (Reaction World) := do
  match ← position.unpack 3 with
  | [x, y, z] => return w.toCell (w.clampCell (← x.toInt) (← y.toInt) (← z.toInt))
  | l => throw (.tooFewParts 3 l.length)

def setColor (w : World) (color : Value) : Reaction World :=
  if color.truthy then .changed { w with color } [s!"Color is now {color.display}"]
  else .refused .noColor

def handled : List ActionKind := [.placeBlock, .removeBlock, .move, .goto, .setColor]

def react (w : World) (a : Action) : Except Misfit (Reaction World) :=
  match a.kind with
  | .placeBlock => w.placeBlock a.payload
  | .removeBlock => w.removeBlock a.payload
  | .move => w.move a.payload
  | .goto => w.goto a.payload.position
  | .setColor => .ok (w.setColor a.payload.color)
  | k => .ok (.refused (.noHandler k .building))

/-- The order of two cells, coordinate by coordinate. -/
def cellLe (a b : List Value) : Bool :=
  match Value.orderItems a b with
  | .ok (some .gt) => false
  | _ => true

def blocksValue (w : World) : Value :=
  if w.blocks.isEmpty then .dict [] else
  .list ((w.blocks.mergeSort fun a b => cellLe a.1 b.1).map fun b =>
    .list [.list b.1, b.2])

def toDict (w : World) : Value :=
  .dict [("width", .int w.width), ("height", .int w.height), ("depth", .int w.depth),
    ("cursor", .list (cellParts w.cursor)), ("color", w.color),
    ("blocks", w.blocksValue)]

end World

/-- The target cells with their colors in lower case; a cell listed again takes the later color. -/
def targetColors (cells : List ColoredCell) : List (List Value × Value) :=
  cells.foldl (fun l c =>
    World.put (World.cellParts c.cell) (.text (lowerText (c.color.getD ""))) l) []

/-- Whether a block has another color than wanted, the case of letters aside. -/
def differs (color : Value) (wanted : Value) : Except Misfit Bool :=
  match color with
  | .text s => .ok (!Value.same (.text (lowerText s)) wanted)
  | v => .error (.noAttribute v.typeName "lower")

def wrongCells (w : World) : List (List Value × Value) → Except Misfit (List (List Value))
  | [] => .ok []
  | (cell, wanted) :: rest => do
    let wrong ← match w.colorAt? cell with
      | some color => differs color wanted
      | none => pure false
    let others ← wrongCells w rest
    return if wrong then cell :: others else others

def sortCells (cells : List (List Value)) : List (List Value) := cells.mergeSort World.cellLe

def cellsValue (cells : List (List Value)) : Value := .list (cells.map Value.list)

def checkStructure (g : Structure) (w : World) : Except Misfit Verdict := do
  let target := targetColors g.target
  let missing := sortCells ((target.map (·.1)).filter fun c => (w.colorAt? c).isNone)
  let wrong ← if g.matchColors then (wrongCells w target).map sortCells else pure []
  let extra := if g.exact then
      sortCells ((w.blocks.map (·.1)).filter fun c =>
        !target.any fun t => Value.sameItems t.1 c)
    else []
  let placed := w.blocks.length
  let details : List (String × Value) :=
    [("placed", .nat placed), ("missing", cellsValue missing), ("wrong_color", cellsValue wrong),
      ("extra", cellsValue extra)]
  if !missing.isEmpty then
    return .failed s!"{natText missing.length} block(s) of the structure are missing" details
  if !wrong.isEmpty then
    return .failed s!"{natText wrong.length} block(s) have the wrong color" details
  if !extra.isEmpty then
    return .failed s!"{natText extra.length} block(s) are not part of the structure" details
  match g.minBlocks with
  | some n =>
    if (placed : Int) < n then
      return .failed (s!"Place at least {← (Value.int n).written} block(s); " ++
        s!"you placed {natText placed}") details
  | none => pure ()
  return .passed "The structure is complete!" details

def checkGoal (l : Level) (w : World) (log : ActionLog) : Except Misfit Verdict :=
  match l.goal with
  | .free n => judgeFree log.size n
  | .structureMatch g => checkStructure g w

end PuzzleWorlds.Building
