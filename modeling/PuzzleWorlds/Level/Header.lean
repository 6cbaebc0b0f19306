import PuzzleWorlds.Document.Decode

/-! What every level has: an identifier, a name, a difficulty, a description, hints and the block
types that its editor offers. -/

namespace PuzzleWorlds

/-- A level of difficulty `free` is a sandbox and is never advanced from. -/
inductive Difficulty where
  | easy | medium | hard | free
deriving DecidableEq, Repr

namespace Difficulty

def name : Difficulty → String
  | easy => "easy" | medium => "medium" | hard => "hard" | free => "free"

def all : List Difficulty := [easy, medium, hard, free]

def decode : Decoder Difficulty := Decoder.choice (all.map fun d => (d.name, d))

end Difficulty

inductive LevelId where
  | number (n : Int)
  | text (s : String)
deriving DecidableEq, Repr

namespace LevelId

def toValue : LevelId → Value
  | number n => .int n
  | text s => .text s

/-- The identifier as it stands in a sentence. -/
def display (id : LevelId) : String := id.toValue.display

/-- A text stays a text; any other value must be a whole number. -/
def decode : Decoder LevelId
  | .text s => .ok (.text s)
  | v => match Decoder.int v with
    | .ok n => .ok (.number n)
    | .bad is =>
      .bad (is.map (Issue.under (.key "int")) ++ [⟨[.key "str"], .notText, v⟩])

end LevelId

structure LevelHeader where
  id : LevelId
  name : String
  difficulty : Difficulty := .easy
  description : String := ""
  hints : List String := []
  allowedBlocks : List String := []
deriving DecidableEq, Repr

namespace LevelHeader

def decode (o : Fields) : Decoded LevelHeader :=
  LevelHeader.mk <$> o.required "id" LevelId.decode
    <*> o.required "name" Decoder.text
    <*> o.withDefault "difficulty" .easy Difficulty.decode
    <*> o.withDefault "description" "" Decoder.text
    <*> o.withDefault "hints" [] (Decoder.list Decoder.text)
    <*> o.withDefault "allowed_blocks" [] (Decoder.list Decoder.text)

def dump (h : LevelHeader) : List (String × Value) :=
  [("id", h.id.toValue), ("name", .text h.name), ("difficulty", .text h.difficulty.name),
    ("description", .text h.description), ("hints", .list (h.hints.map .text)),
    ("allowed_blocks", .list (h.allowedBlocks.map .text))]

end LevelHeader

/-- The least number of actions that a free-play goal asks for. -/
def decodeFreeGoal (o : Fields) : Decoded Int :=
  o.withDefault "min_actions" 1 (Decoder.int.atLeast 1)

def dumpFreeGoal (minActions : Int) : Value :=
  .dict [("type", .text "free"), ("min_actions", .int minActions)]

namespace Value

/-- A float in a document; one that is not finite is written as nothing. -/
def ofMeasure (x : Float) : Value := if x.isFinite then .float x else .null

/-- A number as the float nearest to it, which is how documents hold measures. -/
def asMeasure (v : Value) : Value :=
  match v.toFloat with
  | .ok x => ofMeasure x
  | .error _ => v

def ofOptionInt : Option Int → Value
  | some n => .int n
  | none => null

def ofOptionText : Option String → Value
  | some s => .text s
  | none => null

end Value

end PuzzleWorlds
