import PuzzleWorlds.Domain.Level
import PuzzleWorlds.Block.Spec
import PuzzleWorlds.Action.Basic
import PuzzleWorlds.Music.Note
import PuzzleWorlds.Pixel.Color
import PuzzleWorlds.Grid

/-! Whether a level makes sense: places lie inside the world, references are known, nothing is
listed twice, and the goal is neither reached at the start nor out of reach. -/

namespace PuzzleWorlds

structure Findings where
  errors : List String := []
  warnings : List String := []
deriving DecidableEq, Repr

namespace Findings

def valid (f : Findings) : Bool := f.errors.isEmpty

def append (f g : Findings) : Findings := ⟨f.errors ++ g.errors, f.warnings ++ g.warnings⟩

instance : Append Findings := ⟨append⟩

def errorIf (c : Bool) (text : String) : Findings := if c then ⟨[text], []⟩ else {}

def warningIf (c : Bool) (text : String) : Findings := if c then ⟨[], [text]⟩ else {}

def join (fs : List Findings) : Findings := fs.foldl append {}

def message (f : Findings) : String :=
  s!"Level validation failed with {natText f.errors.length} error(s)"

end Findings

/-- The distinct items in the order of their first appearance, with their numbers. -/
def tally [BEq α] (l : List α) : List (α × Nat) :=
  l.eraseDups.map fun a => (a, l.countP fun b => b == a)

open Findings

def pointText (x y : Int) : String := s!"({intText x}, {intText y})"

def Robot.Level.findings (l : Robot.Level) : Findings :=
  let inside (x y : Int) : Bool := inGrid x y l.width l.height
  let start := errorIf (!inside l.robot.x l.robot.y)
    (s!"Robot start {pointText l.robot.x l.robot.y} is outside the " ++
      s!"{intText l.width}x{intText l.height} grid")
  let stars := join (l.stars.map fun s =>
    errorIf (!inside s.1 s.2) s!"Star {pointText s.1 s.2} is outside the grid")
  let repeated := join ((tally l.stars).map fun (s, n) =>
    warningIf (n > 1) s!"Star {pointText s.1 s.2} is listed more than once")
  let goal := match l.goal with
    | .free _ => {}
    | .position x y all =>
      errorIf (!inside x y) s!"Goal {pointText x y} is outside the grid" ++
        warningIf ((x, y) == (l.robot.x, l.robot.y) && !(all && !l.stars.isEmpty))
          "Robot already starts on the goal"
  start ++ stars ++ repeated ++ goal

def Building.Size.contains (s : Building.Size) (c : Building.Cell) : Bool :=
  0 ≤ c.x && c.x < s.width && 0 ≤ c.y && c.y < s.height && 0 ≤ c.z && c.z < s.depth

def Building.Cell.text (c : Building.Cell) : String :=
  s!"({intText c.x}, {intText c.y}, {intText c.z})"

def Building.Level.findings (l : Building.Level) : Findings :=
  let targetFindings (matchColors : Bool) (c : Building.ColoredCell) : Findings :=
    let color := c.color.getD ""
    errorIf (!l.gridSize.contains c.cell)
        s!"Target block {c.cell.text} is outside the build area" ++
      (if matchColors && c.color.isNone then
        errorIf true s!"Target block {c.cell.text} needs a color when match_colors is set"
      else warningIf (!color.isEmpty && !l.availableColors.isEmpty &&
          !l.availableColors.contains color)
        s!"Target color {color} is not in available_colors")
  let area :=
    errorIf (!l.gridSize.contains l.start.cell) "Cursor start is outside the build area" ++
    warningIf l.availableColors.isEmpty "No available colors; blocks use the default color"
  let goal := match l.goal with
    | .free _ => {}
    | .structureMatch g =>
      join ((tally (g.target.map (·.cell))).map fun (c, n) =>
          errorIf (n > 1) s!"Target structure lists {c.text} {natText n} times") ++
        join (g.target.map (targetFindings g.matchColors)) ++
        errorIf (g.target.isEmpty && g.minBlocks.isNone)
          "structureMatch goal needs a target structure or min_blocks"
  area ++ goal

/-- The potions in the order of the goal. -/
def Sorting.sorted (order : Sorting.SortOrder) (l : List Int) : List Int :=
  l.mergeSort order.allows

def Sorting.Level.findings (l : Sorting.Level) : Findings :=
  match l.goal with
  | .free _ => {}
  | .sortedWithBudget order maxSwaps =>
    if Sorting.sorted order l.potions == l.potions then
      warningIf true "Potions are already sorted"
    else errorIf (maxSwaps == some 0) "max_swaps is 0 but the potions are not sorted"

def Combat.Level.findings (l : Combat.Level) : Findings :=
  let units := l.hero :: l.enemies
  let unitFindings (u : Combat.UnitConfig) : Findings :=
    errorIf (!inGrid u.x u.y l.gridSize.width l.gridSize.height)
        s!"Unit '{u.id}' at {pointText u.x u.y} is outside the arena" ++
      match u.maxHp with
      | some most => errorIf (u.hp > most)
          s!"Unit '{u.id}' has hp {intText u.hp} above max_hp {intText most}"
      | none => {}
  let goal := match l.goal with
    | .targetSelection (some id) =>
      errorIf (!id.isEmpty && !l.enemies.any fun e => e.id == id)
        s!"Expected target '{id}' is not an enemy in this level"
    | _ => {}
  join ((tally (units.map (·.id))).map fun (id, n) =>
      errorIf (n > 1) s!"Unit id '{id}' is used {natText n} times") ++
    join (units.map unitFindings) ++
    warningIf l.enemies.isEmpty "No enemies in the arena" ++ goal

def Music.Level.findings (l : Music.Level) : Findings :=
  let known := Value.joinComma Music.notes
  let required (names : List String) : Findings := join (names.map fun n =>
    errorIf (!Music.notes.contains n) s!"Unknown note '{n}' (expected one of {known})")
  match l.goal with
  | .notes names _ | .sequence names => required names
  | .repetition _ (some n) =>
    errorIf (!n.isEmpty && !Music.notes.contains n) s!"Unknown note '{n}'"
  | _ => {}

def Sprite.Level.findings (l : Sprite.Level) : Findings :=
  let goal := match l.goal with
    | .action kind =>
      errorIf (ActionKind.ofName? kind).isNone s!"Unknown action '{kind}' in action goal"
    | .position x y _ => errorIf (x.isNone && y.isNone) "position goal needs x, y or both"
    | _ => {}
  let ids := l.figures.map (·.id)
  goal ++ errorIf (ids.eraseDups.length != ids.length) "Sprite ids must be unique"

def Pixel.Level.findings (l : Pixel.Level) : Findings :=
  let size := s!"{intText l.size}x{intText l.size}"
  let goal := match l.goal with
    | .free _ => {}
    | .pixels cells colors =>
      join (cells.map fun c => errorIf (!inGrid c.1 c.2 l.size l.size)
          s!"Target pixel {pointText c.1 c.2} is outside the {size} canvas") ++
        warningIf (cells.eraseDups.length != cells.length) "Target pixels contain duplicates" ++
        match colors with
        | some cs =>
          errorIf (cs.length != cells.length) "colors must have one entry per target cell"
        | none => {}
  errorIf (Pixel.paintCode? l.defaultColor).isNone
    s!"Unknown default_color '{l.defaultColor}'" ++ goal

namespace Domain

/-- What is wrong with the parts that are special to the domain. -/
def ownFindings : (d : Domain) → d.Level → Findings
  | robot => Robot.Level.findings
  | building => Building.Level.findings
  | sorting => Sorting.Level.findings
  | combat => Combat.Level.findings
  | music => Music.Level.findings
  | sprite => Sprite.Level.findings
  | pixel => Pixel.Level.findings
  | math => fun _ => {}

/-- The findings on a level. -/
def validate (d : Domain) (l : d.Level) : Findings :=
  let h := Level.header l
  let unknown := h.allowedBlocks.filter fun b =>
    !genericBlockTypes.contains b && !d.blockTypes.contains b
  errorIf (strip h.name).isEmpty "name must not be empty" ++
    warningIf h.hints.isEmpty "No hints defined" ++ d.ownFindings l ++
    join (unknown.map fun b => warningIf true
      s!"Allowed block '{b}' is not known to the {d.name} block compiler")

end Domain

namespace AnyLevel

def validate (l : AnyLevel) : Findings := l.domain.validate l.level

end AnyLevel

end PuzzleWorlds
