import PuzzleWorlds.Json.Read
import PuzzleWorlds.Json.Write
import PuzzleWorlds.Log.Timestamp
import PuzzleWorlds.Text.Casing

/-! The log of the engine. A logger passes on the messages of some weight and more, each as a line
of text or as a line of JSON. -/

namespace PuzzleWorlds.Log

/-- What went wrong, where a record tells of it. -/
structure Failure where
  type : String
  message : String
deriving DecidableEq, Repr

/-- `fields` are shown in a line of JSON beside the message. -/
structure Record where
  level : String
  logger : String
  message : String
  fields : List (String × Value) := []
  failure : Option Failure := none
deriving Repr

def engineName : String := "blockykids"

/-- The name of the part of the engine that writes a record. -/
def loggerName (part : String) : String :=
  if part.isEmpty then engineName else engineName ++ "." ++ part

def serviceVersion : String := "0.1.0"

namespace Record

/-- What a line of JSON shows. A field may take the place of an entry before it. -/
def entries (r : Record) (timestamp service : String) : List (String × Value) :=
  let failure : List (String × Value) := match r.failure with
    | some f => [("exception.type", .text f.type), ("exception.message", .text f.message)]
    | none => []
  (r.fields ++ failure).foldl (fun l e => Json.setKey l e.1 e.2)
    [("timestamp", .text timestamp), ("level", .text r.level), ("logger", .text r.logger),
      ("message", .text r.message), ("service.name", .text service),
      ("service.version", .text serviceVersion)]

def jsonLine (r : Record) (timestamp : String) (service : String := engineName) : String :=
  Json.write (.dict (r.entries timestamp service))

/-- A line of text, without the time at its beginning. -/
def plainLine (r : Record) : String :=
  let blanks := String.ofList (List.replicate (7 - r.level.length) ' ')
  r.level ++ blanks ++ " " ++ r.logger ++ ": " ++ r.message

end Record

/-- The weights of messages by name. -/
def weights : List (String × Nat) :=
  [("CRITICAL", 50), ("FATAL", 50), ("ERROR", 40), ("WARNING", 30), ("WARN", 30), ("INFO", 20),
    ("DEBUG", 10), ("NOTSET", 0)]

def weight? (name : String) : Option Nat := (weights.find? fun w => w.1 == name).map (·.2)

structure Logger where
  level : Nat
  json : Bool := false
deriving DecidableEq, Repr

namespace Logger

/-- A logger for a level in letters of any case; a name that is no level means `INFO`. -/
def configure (level : String) (json : Bool) : Logger :=
  { level := (weight? (upperText level)).getD 20, json }

/-- Whether a message of some weight is passed on. A logger without a level of its own begins at
warnings. -/
def accepts (l : Logger) (weight : Nat) : Bool := (if l.level == 0 then 30 else l.level) ≤ weight

/-- The records that are passed on, each under the first name of its weight. -/
def select (l : Logger) (rs : List Record) : List Record :=
  rs.filterMap fun r =>
    let weight := (weight? r.level).getD 20
    if l.accepts weight then
      some { r with level := ((weights.find? fun w => w.2 == weight).map (·.1)).getD r.level }
    else none

end Logger

end PuzzleWorlds.Log
