import PuzzleWorlds.Value.Misfit

/-! Actions: the atomic, replayable changes of a world. An action needs only the current world to
be applied, never the program that produced it. -/

namespace PuzzleWorlds

inductive ActionKind where
  | move | turn | collectStar | wait
  | placeBlock | removeBlock | setColor | goto
  | swap
  | selectTarget | attack
  | playNote | rest
  | jump | say | scale | rotate
  | drawPixel
  | print
deriving DecidableEq, Repr, Inhabited

namespace ActionKind

def all : List ActionKind :=
  [move, turn, collectStar, wait, placeBlock, removeBlock, setColor, goto, swap, selectTarget,
    attack, playNote, rest, jump, say, scale, rotate, drawPixel, print]

def name : ActionKind → String
  | move => "move" | turn => "turn" | collectStar => "collect_star" | wait => "wait"
  | placeBlock => "place_block" | removeBlock => "remove_block" | setColor => "set_color"
  | goto => "goto" | swap => "swap" | selectTarget => "select_target" | attack => "attack"
  | playNote => "play_note" | rest => "rest" | jump => "jump" | say => "say" | scale => "scale"
  | rotate => "rotate" | drawPixel => "draw_pixel" | print => "print"

def ofName? (s : String) : Option ActionKind := all.find? fun k => k.name == s

theorem mem_all (k : ActionKind) : k ∈ all := by cases k <;> decide

theorem name_injective {j k : ActionKind} (h : j.name = k.name) : j = k := by
  revert h; cases j <;> cases k <;> decide

end ActionKind

/-- The parameters of an action. Each kind uses some of them; the others stay `null`. -/
structure Payload where
  dx : Value := .null
  dy : Value := .null
  dz : Value := .null
  position : Value := .null
  degrees : Value := .null
  color : Value := .null
  first : Value := .null
  second : Value := .null
  targetId : Value := .null
  note : Value := .null
  text : Value := .null
  seconds : Value := .null
  beats : Value := .null
  percent : Value := .null
deriving Repr, Inhabited

structure Action where
  kind : ActionKind
  payload : Payload := {}
deriving Repr, Inhabited

/-- The actions of one run, in the order in which they were recorded. -/
abbrev Trace := List Action

namespace Payload

inductive Field where
  | dx | dy | dz | position | degrees | color | first | second | targetId | note | text
  | seconds | beats | percent
deriving DecidableEq, Repr

namespace Field

def all : List Field :=
  [dx, dy, dz, position, degrees, color, first, second, targetId, note, text, seconds, beats,
    percent]

def name : Field → String
  | dx => "dx" | dy => "dy" | dz => "dz" | position => "position" | degrees => "degrees"
  | color => "color" | first => "first" | second => "second" | targetId => "target_id"
  | note => "note" | text => "text" | seconds => "seconds" | beats => "beats"
  | percent => "percent"

def ofName? (s : String) : Option Field := all.find? fun f => f.name == s

end Field

def get (p : Payload) : Field → Value
  | .dx => p.dx | .dy => p.dy | .dz => p.dz | .position => p.position | .degrees => p.degrees
  | .color => p.color | .first => p.first | .second => p.second | .targetId => p.targetId
  | .note => p.note | .text => p.text | .seconds => p.seconds | .beats => p.beats
  | .percent => p.percent

def set (p : Payload) (f : Field) (v : Value) : Payload :=
  match f with
  | .dx => { p with dx := v } | .dy => { p with dy := v } | .dz => { p with dz := v }
  | .position => { p with position := v } | .degrees => { p with degrees := v }
  | .color => { p with color := v } | .first => { p with first := v }
  | .second => { p with second := v } | .targetId => { p with targetId := v }
  | .note => { p with note := v } | .text => { p with text := v }
  | .seconds => { p with seconds := v } | .beats => { p with beats := v }
  | .percent => { p with percent := v }

@[simp] theorem get_set_self (p : Payload) (f : Field) (v : Value) : (p.set f v).get f = v := by
  cases f <;> rfl

theorem get_set_of_ne (p : Payload) {f g : Field} (v : Value) (h : f ≠ g) :
    (p.set f v).get g = p.get g := by
  cases f <;> cases g <;> first | rfl | exact absurd rfl h

end Payload

namespace Action

def move (dx dy dz : Value) : Action := ⟨.move, { dx, dy, dz }⟩
def turn (degrees : Int) : Action := ⟨.turn, { degrees }⟩
def collectStar : Action := ⟨.collectStar, {}⟩
def wait (seconds : Value) : Action := ⟨.wait, { seconds }⟩
def placeBlock (position color : Value) : Action := ⟨.placeBlock, { position, color }⟩
def removeBlock (position : Value) : Action := ⟨.removeBlock, { position }⟩
def setColor (color : String) : Action := ⟨.setColor, { color }⟩
def goto (x y z : Int) : Action := ⟨.goto, { position := .tuple [x, y, z] }⟩
def swap (i j : Int) : Action := ⟨.swap, { first := i, second := j }⟩
def selectTarget (id : String) : Action := ⟨.selectTarget, { targetId := id }⟩
def attack (id : String) : Action := ⟨.attack, { targetId := id }⟩
def playNote (note : String) : Action := ⟨.playNote, { note }⟩
def rest (beats : Value) : Action := ⟨.rest, { beats }⟩
def jump : Action := ⟨.jump, {}⟩
def say (text : String) : Action := ⟨.say, { text }⟩
def scale (percent : Value) : Action := ⟨.scale, { percent }⟩
def rotate (degrees : Value) : Action := ⟨.rotate, { degrees }⟩
def drawPixel (position : Value) (color : String) : Action := ⟨.drawPixel, { position, color }⟩
def print (text : String) : Action := ⟨.print, { text }⟩

end Action

end PuzzleWorlds
