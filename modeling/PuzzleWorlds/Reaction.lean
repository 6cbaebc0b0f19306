import PuzzleWorlds.Action.Basic
import PuzzleWorlds.Domain.Basic

/-! How a world reacts to an action: it changes, or it refuses the action and stays as it is. -/

namespace PuzzleWorlds

inductive Refusal where
  | foreignWorld (expected got : Domain)
  | noHandler (kind : ActionKind) (domain : Domain)
  | partialTurn (degrees : Value)
  | blockOutside (position : Value)
  | pixelOutside (x y : Value)
  | noColor
  | swapOutside (first second : Value) (size : Nat)
  | noEnemy (id : Value)
  | unknownNote (note : Value)
  | badScale (percent : Value)
  | misfit (cause : Misfit)
deriving Repr

namespace Refusal

def message : Refusal → String
  | foreignWorld d e => s!"{d.name} reducer expects {d.worldName}, got {e.worldName}"
  | noHandler k d => s!"No handler for action type {k.name} in {d.name}"
  | partialTurn v => s!"Robot can only turn in steps of 90 degrees, got {v.display}"
  | blockOutside v => s!"Cannot place a block outside the build area at {v.display}"
  | pixelOutside x y => s!"Pixel ({x.display}, {y.display}) is outside the canvas"
  | noColor => "set_color needs a color"
  | swapOutside i j n =>
    s!"Swap ({i.display}, {j.display}) is outside the shelf of {natText n} potions"
  | noEnemy v => s!"No enemy called '{v.display}'"
  | unknownNote v => s!"Unknown note {v.repr}"
  | badScale v => s!"Scale must be positive, got {v.display}"
  | misfit m => m.message

def code : Refusal → String
  | foreignWorld .. => "INVALID_ACTION"
  | noHandler .. => "NO_HANDLER"
  | partialTurn _ => "INVALID_TURN"
  | blockOutside _ | pixelOutside .. => "OUT_OF_BOUNDS"
  | noColor => "INVALID_COLOR"
  | swapOutside .. => "INDEX_OUT_OF_RANGE"
  | noEnemy _ => "UNKNOWN_TARGET"
  | unknownNote _ => "UNKNOWN_NOTE"
  | badScale _ => "INVALID_SCALE"
  | misfit _ => "HANDLER_ERROR"

end Refusal

inductive Reaction (W : Type) where
  | changed (world : W) (changes : List String)
  | refused (why : Refusal)
deriving Repr

namespace Reaction

/-- A payload that does not fit is refused; only a number beyond the range of floats is a fault of
the whole replay. -/
def settle : Except Misfit (Reaction W) → Except Misfit (Reaction W)
  | .ok r => .ok r
  | .error m =>
    match m.kind with
    | .value | .type | .key | .index => .ok (.refused (.misfit m))
    | .overflow | .attribute | .zeroDivision => .error m

end Reaction

end PuzzleWorlds
