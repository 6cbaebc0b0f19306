import PuzzleWorlds.Domain.Basic
import PuzzleWorlds.Robot.Level
import PuzzleWorlds.Building.Level
import PuzzleWorlds.Sorting.Level
import PuzzleWorlds.Combat.Level
import PuzzleWorlds.Music.Level
import PuzzleWorlds.Sprite.Level
import PuzzleWorlds.Pixel.Level
import PuzzleWorlds.Console.Level
import PuzzleWorlds.Json.Fault

/-! Levels of every domain, and their loading from documents. -/

namespace PuzzleWorlds

namespace Domain

/-- The levels of a domain. -/
def Level : Domain → Type
  | robot => Robot.Level
  | building => Building.Level
  | sorting => Sorting.Level
  | combat => Combat.Level
  | music => Music.Level
  | sprite => Sprite.Level
  | pixel => Pixel.Level
  | math => Console.Level

namespace Level

def header : {d : Domain} → d.Level → LevelHeader
  | robot, (l : Robot.Level) => l.header
  | building, (l : Building.Level) => l.header
  | sorting, (l : Sorting.Level) => l.header
  | combat, (l : Combat.Level) => l.header
  | music, (l : Music.Level) => l.header
  | sprite, (l : Sprite.Level) => l.header
  | pixel, (l : Pixel.Level) => l.header
  | math, (l : Console.Level) => l.header

/-- The number of actions that a free-play goal asks for. -/
def freeMinimum? : {d : Domain} → d.Level → Option Int
  | robot, (l : Robot.Level) => match l.goal with | .free n => some n | _ => none
  | building, (l : Building.Level) => match l.goal with | .free n => some n | _ => none
  | sorting, (l : Sorting.Level) => match l.goal with | .free n => some n | _ => none
  | combat, (l : Combat.Level) => match l.goal with | .free n => some n | _ => none
  | music, (l : Music.Level) => match l.goal with | .free n => some n | _ => none
  | sprite, (l : Sprite.Level) => match l.goal with | .free n => some n | _ => none
  | pixel, (l : Pixel.Level) => match l.goal with | .free n => some n | _ => none
  | math, (l : Console.Level) => match l.goal with | .free n => some n | _ => none

/-- Whether the level is a sandbox, by its difficulty or its goal. -/
def isFree {d : Domain} (l : d.Level) : Bool :=
  (header l).difficulty == .free || (freeMinimum? l).isSome

def dump : {d : Domain} → d.Level → List (String × Value)
  | robot, l => Robot.Level.dump l
  | building, l => Building.Level.dump l
  | sorting, l => Sorting.Level.dump l
  | combat, l => Combat.Level.dump l
  | music, l => Music.Level.dump l
  | sprite, l => Sprite.Level.dump l
  | pixel, l => Pixel.Level.dump l
  | math, l => Console.Level.dump l

/-- The level as a document with every field written out. -/
def toDict {d : Domain} (l : d.Level) : Value := .dict (dump l)

end Level

def decodeLevel : (d : Domain) → Fields → Decoded d.Level
  | robot => Robot.Level.decode
  | building => Building.Level.decode
  | sorting => Sorting.Level.decode
  | combat => Combat.Level.decode
  | music => Music.Level.decode
  | sprite => Sprite.Level.decode
  | pixel => Pixel.Level.decode
  | math => Console.Level.decode

end Domain

/-- A level of some domain. -/
structure AnyLevel where
  domain : Domain
  level : domain.Level

namespace AnyLevel

def decode : Decoder AnyLevel :=
  Decoder.tagged "domain" (Domain.all.map fun d =>
    (d.name, fun o => (AnyLevel.mk d) <$> d.decodeLevel o))

end AnyLevel

/-- The errors of documents that are no levels. -/
structure LoadFailure where
  errors : List String
deriving DecidableEq, Repr

def LoadFailure.message (f : LoadFailure) : String :=
  s!"Level failed to load with {natText f.errors.length} error(s): " ++ "; ".intercalate f.errors

/-- Reads a level; `fromText` says whether the document arrived as text. -/
def readLevel (document : Value) (fromText : Bool := false) : Except LoadFailure AnyLevel :=
  match AnyLevel.decode document with
  | .ok l => .ok l
  | .bad issues => .error ⟨issues.map (Issue.text fromText)⟩

/-- Reads a level from the text of its document. -/
def loadLevelText (text : String) : Except LoadFailure AnyLevel :=
  match Json.Fault.ofText? text, Json.read text with
  | some f, _ => .error ⟨[(Issue.mk [] (.badJson (f.message text)) (.text text)).text true]⟩
  | none, .ok document => readLevel document true
  | none, .error f =>
    .error ⟨[(Issue.mk [] (.badJson (f.message text)) (.text text)).text true]⟩

/-- Reads a level from a document. A text is the text of a document. -/
def loadLevel : Value → Except LoadFailure AnyLevel
  | .text s => loadLevelText s
  | document => readLevel document

/-- Reads the levels of a pack from position `i` on; errors name the position of their level. -/
def loadLevelsFrom : Nat → List Value → Except LoadFailure (List AnyLevel)
  | _, [] => .ok []
  | i, document :: rest =>
    match loadLevel document, loadLevelsFrom (i + 1) rest with
    | .ok l, .ok ls => .ok (l :: ls)
    | .ok _, .error g => .error g
    | .error f, .ok _ => .error ⟨located i f⟩
    | .error f, .error g => .error ⟨located i f ++ g.errors⟩
where
  located (i : Nat) (f : LoadFailure) : List String :=
    f.errors.map fun e => s!"levels[{natText i}].{e}"

def loadLevels (documents : List Value) : Except LoadFailure (List AnyLevel) :=
  loadLevelsFrom 0 documents

end PuzzleWorlds
