import PuzzleWorlds.Value.Arithmetic
import PuzzleWorlds.Value.Render
import PuzzleWorlds.Number.Reading

/-! Numbers from block fields. A field may hold a number or its text; a truth value is no
number here. -/

namespace PuzzleWorlds.Value

/-- A float that is whole becomes that integer. -/
def simplify : Value → Value
  | float x => match floatToInt? x with
    | some n => int n
    | none => float x
  | v => v

/-- The value as a whole number. -/
def asInt? : Value → Option Int
  | int n => some n
  | float x => floatToInt? x
  | text s => readInt? s
  | _ => none

/-- The value as a number, whole if possible when it is read from text. -/
def asNumber? : Value → Option Value
  | int n => some (int n)
  | float x => some (float x)
  | text s => (readFloat? s).map fun x => simplify (float x)
  | _ => none

/-- Numeric text becomes a number, and any other value stays as it is. -/
def numeric : Value → Value
  | text s => match readFloat? s with
    | some x => simplify (float x)
    | none => text s
  | v => v

end PuzzleWorlds.Value
