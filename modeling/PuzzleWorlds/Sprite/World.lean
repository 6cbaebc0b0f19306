import PuzzleWorlds.Sprite.Level
import PuzzleWorlds.Reaction
import PuzzleWorlds.Verdict

/-! The stage with its animated figure. Places are not clamped, so a figure may walk off; turning
is summed up without its sign. -/

namespace PuzzleWorlds.Sprite

structure World where
  spriteId : String
  emoji : String
  x : Value
  y : Value
  rotation : Value := 0
  totalRotation : Value := 0
  scalePercent : Value := .float 100.0
  speech : Value := .null
  jumps : Nat := 0
deriving Repr

namespace World

def initial (l : Level) : World where
  spriteId := l.lead.id
  emoji := l.lead.emoji
  x := l.lead.x
  y := l.lead.y

def move (w : World) (p : Payload) : Except Misfit (Reaction World) := do
  let x ← Value.operation .add w.x (p.dx.orElse 0)
  let y ← Value.operation .add w.y (p.dy.orElse 0)
  return .changed { w with x, y } [s!"{w.spriteId} moved to ({← x.written}, {← y.written})"]

def jump (w : World) : Reaction World :=
  .changed { w with jumps := w.jumps + 1 } [s!"{w.spriteId} jumped"]

def rotate (w : World) (amount : Value) : Except Misfit (Reaction World) := do
  let degrees := amount.orElse 0
  let turned ← Value.operation .add w.rotation degrees
  let rotation ← Value.operation .mod turned 360
  let totalRotation ← Value.operation .add w.totalRotation degrees.absolute
  return .changed { w with rotation, totalRotation }
    [s!"{w.spriteId} rotated {degrees.display} degrees"]

def scale (w : World) (percent : Value) : Except Misfit (Reaction World) := do
  if percent.isNull then return .refused (.badScale percent)
  if ← Value.ordered .le percent 0 then return .refused (.badScale percent)
  return .changed { w with scalePercent := percent }
    [s!"{w.spriteId} is now {percent.display}% big"]

def say (w : World) (text : Value) : Reaction World :=
  .changed { w with speech := text } [s!"{w.spriteId} says \"" ++ text.display ++ "\""]

def handled : List ActionKind := [.move, .jump, .rotate, .scale, .say, .wait]

def react (w : World) (a : Action) : Except Misfit (Reaction World) :=
  match a.kind with
  | .move => w.move a.payload
  | .jump => .ok w.jump
  | .rotate => w.rotate a.payload.degrees
  | .scale => w.scale a.payload.percent
  | .say => .ok (w.say a.payload.text)
  | .wait => .ok (.changed w [])
  | k => .ok (.refused (.noHandler k .sprite))

def toDict (w : World) : Value :=
  .dict [("sprite_id", .text w.spriteId), ("emoji", .text w.emoji), ("x", w.x), ("y", w.y),
    ("rotation", w.rotation), ("total_rotation", w.totalRotation),
    ("scale_percent", w.scalePercent), ("speech", w.speech), ("jumps", .nat w.jumps)]

end World

/-- A number with six significant digits. -/
def amount (v : Value) : String :=
  match v.toFloat with
  | .ok x => amountText x
  | .error _ => v.display

def ofOptionFloat : Option Float → Value
  | some x => .float x
  | none => .null

/-- How far a coordinate is from its target. -/
def offset (v : Value) (target : Float) : Except Misfit Value :=
  (Value.operation .sub v (.float target)).map Value.absolute

/-- The first axis on which the figure is too far away, with the distance. -/
def firstOff (tolerance : Value) :
    List (String × Value × Option Float) → Except Misfit (Option (String × Value))
  | [] => .ok none
  | (_, _, none) :: rest => firstOff tolerance rest
  | (axis, v, some target) :: rest => do
    let off ← offset v target
    if ← Value.ordered .gt off tolerance then return some (axis, off)
    firstOff tolerance rest

def checkPosition (gx gy : Option Float) (tolerance : Value) (w : World) :
    Except Misfit Verdict := do
  let details : List (String × Value) :=
    [("x", w.x), ("y", w.y), ("target_x", ofOptionFloat gx), ("target_y", ofOptionFloat gy)]
  if gx.isNone && gy.isNone then return .failed "This goal has no spot to reach" details
  match ← firstOff tolerance [("x", w.x, gx), ("y", w.y, gy)] with
  | some (axis, off) =>
    return .failed s!"Not there yet: {axis} is {amount off} pixels away" details
  | none => return .passed "The sprite reached the spot!" details

def checkAction (kind : String) (log : ActionLog) : Verdict :=
  if log.entries.any fun a => a.kind.name == kind then
    .passed s!"The sprite did a {kind}!" []
  else .failed s!"Make the sprite {kind}" []

def checkRotation (degrees : Value) (w : World) : Except Misfit Verdict := do
  let details : List (String × Value) :=
    [("total_rotation", w.totalRotation), ("required", degrees)]
  if ← Value.ordered .ge w.totalRotation degrees then return .passed "What a spin!" details
  return .failed s!"Rotate {amount degrees} degrees in total" details

def checkScale (percent : Float) (tolerance : Value) (w : World) : Except Misfit Verdict := do
  let details : List (String × Value) :=
    [("percent", w.scalePercent), ("required", .float percent)]
  if ← Value.ordered .le (← offset w.scalePercent percent) tolerance then
    return .passed "Perfect size!" details
  return .failed s!"Make the sprite {amountText percent}% big" details

def checkSpeech (text : Option String) (log : ActionLog) : Verdict :=
  let said := (log.ofKind .say).map fun a => a.payload.text
  let details : List (String × Value) := [("said", .list said)]
  match text with
  | none =>
    if said.isEmpty then .failed "Make the sprite say something" details
    else .passed "The sprite said something!" details
  | some s =>
    if said.any fun v => Value.same v (.text s) then
      .passed ("The sprite said \"" ++ s ++ "\"!") details
    else .failed ("Make the sprite say \"" ++ s ++ "\"") details

def checkGoal (l : Level) (w : World) (log : ActionLog) : Except Misfit Verdict :=
  match l.goal with
  | .free n => judgeFree log.size n
  | .position x y tolerance => checkPosition x y tolerance w
  | .action kind => .ok (checkAction kind log)
  | .rotation degrees => checkRotation degrees w
  | .scale percent tolerance => checkScale percent tolerance w
  | .speech text => .ok (checkSpeech text log)

end PuzzleWorlds.Sprite
