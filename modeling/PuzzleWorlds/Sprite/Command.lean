import PuzzleWorlds.Command
import PuzzleWorlds.Value.Arithmetic

/-! What a program can make the animated figure do. -/

namespace PuzzleWorlds.Sprite

inductive Command where
  | jump | moveDown | moveLeft | moveRight | moveUp | rotate | say | scale | wait
deriving DecidableEq, Repr

namespace Command

def all : List Command :=
  [jump, moveDown, moveLeft, moveRight, moveUp, rotate, say, scale, wait]

def spec : Command → CommandSpec
  | jump => { name := "jump", aliases := ["lompat", "animJump"], doc := "Jump in place." }
  | moveDown =>
    { name := "move_down", aliases := ["gerak_bawah", "animMoveDown"]
      doc := "Move down by some pixels.", params := [⟨"pixels", some 50⟩] }
  | moveLeft =>
    { name := "move_left", aliases := ["gerak_kiri", "animMoveLeft"]
      doc := "Move left by some pixels.", params := [⟨"pixels", some 50⟩] }
  | moveRight =>
    { name := "move_right", aliases := ["gerak_kanan", "animMoveRight"]
      doc := "Move right by some pixels.", params := [⟨"pixels", some 50⟩] }
  | moveUp =>
    { name := "move_up", aliases := ["gerak_atas", "animMoveUp"]
      doc := "Move up by some pixels.", params := [⟨"pixels", some 50⟩] }
  | rotate =>
    { name := "rotate", aliases := ["putar", "animRotate"]
      doc := "Spin clockwise by some degrees.", params := [⟨"degrees", some 90⟩] }
  | say =>
    { name := "say", aliases := ["katakan", "animSay"], doc := "Show a speech bubble."
      params := [⟨"text", none⟩] }
  | scale =>
    { name := "scale", aliases := ["skala", "animScale"]
      doc := "Resize to a percentage of the original size.", params := [⟨"percent", some 100⟩] }
  | wait =>
    { name := "wait", aliases := ["tunggu"], doc := "Pause for a number of seconds."
      params := [⟨"seconds", some 1⟩] }

def call (c : Command) (a : Arguments) : Except Fault (Response Unit) := do
  match c with
  | jump => return .acts () .jump
  | moveDown => return .acts () (.move 0 (← asNumber "pixels" (a.arg 0)) 0)
  | moveLeft => return .acts () (.move (← asNumber "pixels" (a.arg 0)).negate 0 0)
  | moveRight => return .acts () (.move (← asNumber "pixels" (a.arg 0)) 0 0)
  | moveUp => return .acts () (.move 0 (← asNumber "pixels" (a.arg 0)).negate 0)
  | rotate => return .acts () (.rotate (← asNumber "degrees" (a.arg 0)))
  | say => return .acts () (.say (← asText (a.arg 0)))
  | scale =>
    let percent ← asNumber "percent" (a.arg 0)
    if percent.isNotPositive then throw (.emptySize percent)
    return .acts () (.scale percent)
  | wait => return .acts () (← waitAction (a.arg 0))

end Command

end PuzzleWorlds.Sprite
