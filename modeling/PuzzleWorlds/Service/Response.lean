import PuzzleWorlds.Domain.Summary
import PuzzleWorlds.Level.Check
import PuzzleWorlds.Level.Packs
import PuzzleWorlds.Service.Body
import PuzzleWorlds.Session.Table

/-! Answers of the service. Failed programs and failed goals are answers like any other; only what
cannot be looked up or loaded is an error. -/

namespace PuzzleWorlds.Service

structure Response where
  status : Nat := 200
  body : Value
deriving Repr

/-- Why a request has no answer: something went wrong inside, or a run failed in a block whose
identifier is no text. -/
inductive Breakdown where
  | fault (why : Fault)
  | blockId (id : Value)
  | probe
deriving Repr

def apiVersion : String × Value := ("api_version", "v1")

def version : String := "0.1.0"

inductive ErrorCode where
  | sessionNotFound | unknownDomain | invalidLevel | invalidLevelIndex
deriving DecidableEq, Repr

namespace ErrorCode

def name : ErrorCode → String
  | sessionNotFound => "SESSION_NOT_FOUND"
  | unknownDomain => "UNKNOWN_DOMAIN"
  | invalidLevel => "INVALID_LEVEL"
  | invalidLevelIndex => "INVALID_LEVEL_INDEX"

def status : ErrorCode → Nat
  | sessionNotFound | unknownDomain => 404
  | invalidLevel | invalidLevelIndex => 400

end ErrorCode

/-- An error that the client can tell by its code. -/
structure ErrorReport where
  code : ErrorCode
  message : String
  details : Option (List (String × Value)) := none
deriving Repr

namespace ErrorReport

def response (e : ErrorReport) : Response where
  status := e.code.status
  body := .dict [("error", .text e.message), ("error_code", .text e.code.name),
    ("details", Value.ofOption (e.details.map .dict)), apiVersion]

def sessionNotFound (id : String) : ErrorReport where
  code := .sessionNotFound
  message := (SessionNotFound.mk id).message
  details := some [("session_id", .text id)]

def badLevels (message : String) (errors : List String) : ErrorReport where
  code := .invalidLevel
  message := message
  details := some [("errors", .texts errors)]

end ErrorReport

def detailed (status : Nat) (detail : Value) : Response := ⟨status, .dict [("detail", detail)]⟩

def notFound : Response := detailed 404 "Not Found"

def notAllowed : Response := detailed 405 "Method Not Allowed"

/-- Sends the client to another path. -/
def moved : Response := ⟨307, .null⟩

def ofBodyFault (f : BodyFault) : Response := detailed f.status f.detail

mutual

/-- A value as it is answered: a float that is not finite is left out. -/
def finite : Value → Value
  | .float x => Value.ofMeasure x
  | .list l | .tuple l => .list (finiteItems l)
  | .dict l | .record l => .dict (finiteEntries l)
  | v => v

def finiteItems : List Value → List Value
  | [] => []
  | v :: rest => finite v :: finiteItems rest

def finiteEntries : List (String × Value) → List (String × Value)
  | [] => []
  | (k, v) :: rest => (k, finite v) :: finiteEntries rest

end

def domainEntry (d : Domain) : Value :=
  .dict [("name", .text d.name), ("title", .text d.title),
    ("primitives", .texts (d.commandSpecs.map (·.name))), ("block_types", .texts d.blockTypes),
    ("level_count", .nat d.pack.length)]

def levelEntry (index : Nat) (h : LevelHeader) : Value :=
  .dict [("index", .nat index), ("id", h.id.toValue), ("name", .text h.name),
    ("difficulty", .text h.difficulty.name), ("description", .text h.description),
    ("allowed_blocks", .texts h.allowedBlocks)]

def packEntry (d : Domain) : Value :=
  .dict [("domain", .text d.name),
    ("levels", .list (d.pack.zipIdx.map fun l => levelEntry l.2 (Domain.Level.header l.1)))]

/-- The findings on a document that may not even load. -/
def validationEntry (document : Value) : Value :=
  let (valid, errors, warnings) := match loadLevel document with
    | .error f => (false, f.errors, [])
    | .ok l => (l.validate.valid, l.validate.errors, l.validate.warnings)
  .dict [("valid", .bool valid), ("errors", .texts errors), ("warnings", .texts warnings)]

section

variable {d : Domain}

def sessionEntry (s : Session d) : Value :=
  .dict [("session_id", .text s.id), ("domain", .text d.name), ("level_index", .nat s.levelIndex),
    ("level_count", .nat s.levels.size), ("level", Domain.Level.toDict s.level),
    ("failed_attempts", .nat s.failedAttempts), ("hints", .texts s.hints),
    ("completed_levels", .list (s.completed.map .nat)), ("can_advance", .bool s.canAdvance),
    ("created_at", .float s.createdAt), apiVersion]

def stateEntry (s : Session d) : Value :=
  .dict [("session_id", .text s.id), ("replay_state", .text s.scheduler.phase.name),
    ("index", .nat s.scheduler.index), ("total", .nat s.scheduler.trace.length),
    ("world", s.scheduler.worldToDict), ("log", .list (Trace.toList s.scheduler.log.entries)),
    ("rejected", .list (s.scheduler.rejected.map RejectedStep.toDict)), apiVersion]

def verdictEntry (s : Session d) (v : Verdict) : Value :=
  .dict [("session_id", .text s.id), ("success", .bool v.success), ("message", .text v.message),
    ("details", .dict v.details), ("hints", .texts s.hints), ("can_advance", .bool s.canAdvance),
    apiVersion]

def advanceEntry (s : Session d) (advanced : Bool) : Value :=
  .dict [("session_id", .text s.id), ("advanced", .bool advanced),
    ("level_index", .nat s.levelIndex), ("level", Domain.Level.toDict s.level), apiVersion]

/-- The identifier of the block that a run failed in must be a text. -/
def reportable (r : RunResult) : Except Breakdown Unit :=
  match (r.diagnostic.bind Diagnostic.location).map Location.blockId with
  | none | some .null | some (.text _) => .ok ()
  | some id => .error (.blockId id)

def runEntry (s : Session d) (r : RunResult) : Except Breakdown Value := do
  reportable r
  return .dict [("session_id", .text s.id), ("run_id", .nat r.runId),
    ("status", .text r.status.name), ("trace", .list (Trace.toList r.trace)),
    ("diagnostic", Value.ofOption (r.diagnostic.map Diagnostic.toDict)),
    ("replayed", .nat r.replayed), ("output", .texts r.output), ("warnings", .texts r.warnings),
    ("world", s.scheduler.worldToDict), apiVersion]

end

end PuzzleWorlds.Service
