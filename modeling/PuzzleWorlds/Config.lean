import PuzzleWorlds.Executor.Request
import PuzzleWorlds.Text.Casing
import PuzzleWorlds.Value.Misfit

/-! The settings of the engine. They come from named variables; a variable that is not set has a
default. -/

namespace PuzzleWorlds

structure Config where
  executorUrl : String := "http://localhost:2358"
  executorTimeoutMs : Int := 10000
  executorBase64 : Bool := true
  healthTimeoutSeconds : Float := 5.0
  localTimeoutMs : Int := 2000
  stepBudget : Int := 10000
  actionBudget : Int := 1000
  replayPace : Float := 1.0
  assistAfter : Int := 3
  sessionMaxAgeSeconds : Int := 3600
  logLevel : String := "INFO"
  logJson : Bool := false
  allowedOrigins : List String := ["*"]
deriving Repr

namespace Config

/-- The variables that are set. -/
abbrev Environment := List (String × String)

def setting? (env : Environment) (name : String) : Option String :=
  (env.find? fun e => e.1 == name).map (·.2)

def isAffirmative (s : String) : Bool := ["1", "true", "yes", "on"].contains (lowerText (strip s))

def flag (env : Environment) (name : String) (default : Bool) : Bool :=
  ((setting? env name).map isAffirmative).getD default

def whole (env : Environment) (name : String) (default : Int) : Except Misfit Int :=
  match setting? env name with
  | some s => (Value.text s).toInt
  | none => .ok default

def number (env : Environment) (name : String) (default : Float) : Except Misfit Float :=
  match setting? env name with
  | some s => (Value.text s).toNumber
  | none => .ok default

def settingNames : List String :=
  ["BLOCKYKIDS_EXECUTOR_URL", "BLOCKYKIDS_EXECUTOR_TIMEOUT_MS", "BLOCKYKIDS_BASE64",
    "BLOCKYKIDS_HEALTH_TIMEOUT", "BLOCKYKIDS_LOCAL_TIMEOUT_MS", "BLOCKYKIDS_STEP_BUDGET",
    "BLOCKYKIDS_ACTION_BUDGET", "BLOCKYKIDS_REPLAY_PACE", "BLOCKYKIDS_ASSIST_AFTER",
    "BLOCKYKIDS_SESSION_MAX_AGE", "LOG_LEVEL", "LOG_JSON", "ALLOWED_ORIGINS"]

/-- Reads the settings from variables; the first one that is no number stops the reading. -/
def ofEnvironment (env : Environment) : Except Misfit Config := do
  let c : Config := {}
  return {
    executorUrl := (setting? env "BLOCKYKIDS_EXECUTOR_URL").getD c.executorUrl
    executorTimeoutMs := ← whole env "BLOCKYKIDS_EXECUTOR_TIMEOUT_MS" c.executorTimeoutMs
    executorBase64 := flag env "BLOCKYKIDS_BASE64" c.executorBase64
    healthTimeoutSeconds := ← number env "BLOCKYKIDS_HEALTH_TIMEOUT" c.healthTimeoutSeconds
    localTimeoutMs := ← whole env "BLOCKYKIDS_LOCAL_TIMEOUT_MS" c.localTimeoutMs
    stepBudget := ← whole env "BLOCKYKIDS_STEP_BUDGET" c.stepBudget
    actionBudget := ← whole env "BLOCKYKIDS_ACTION_BUDGET" c.actionBudget
    replayPace := ← number env "BLOCKYKIDS_REPLAY_PACE" c.replayPace
    assistAfter := ← whole env "BLOCKYKIDS_ASSIST_AFTER" c.assistAfter
    sessionMaxAgeSeconds := ← whole env "BLOCKYKIDS_SESSION_MAX_AGE" c.sessionMaxAgeSeconds
    logLevel := (setting? env "LOG_LEVEL").getD c.logLevel
    logJson := flag env "LOG_JSON" c.logJson
    allowedOrigins := ((setting? env "ALLOWED_ORIGINS").map (·.splitOn ",")).getD c.allowedOrigins }

/-- Why the engine cannot run with its settings. -/
inductive Unusable where
  | badUrl (url : String)
  | noTime
  | noBudget
  | negativePace
deriving DecidableEq, Repr

def Unusable.message : Unusable → String
  | badUrl url => s!"BLOCKYKIDS_EXECUTOR_URL must be an http(s) URL, got {quoted url}"
  | noTime => "Execution timeouts must be positive"
  | noBudget => "Step and action budgets must be positive"
  | negativePace => "BLOCKYKIDS_REPLAY_PACE cannot be negative"

def validate (c : Config) : Except Unusable Unit :=
  if !(c.executorUrl.startsWith "http://" || c.executorUrl.startsWith "https://") then
    .error (.badUrl c.executorUrl)
  else if c.executorTimeoutMs ≤ 0 || c.localTimeoutMs ≤ 0 then .error .noTime
  else if c.stepBudget ≤ 0 || c.actionBudget ≤ 0 then .error .noBudget
  else if c.replayPace < 0 then .error .negativePace
  else .ok ()

/-- The settings in a few lines of text. -/
def display (c : Config) : String :=
  "\n".intercalate [
    "BlockyKids Configuration:",
    s!"  Executor: {c.executorUrl} (timeout {intText c.executorTimeoutMs}ms, " ++
      s!"base64={Value.boolText c.executorBase64})",
    s!"  Local: timeout {intText c.localTimeoutMs}ms, {intText c.stepBudget} steps, " ++
      s!"{intText c.actionBudget} actions",
    s!"  Replay pace: {floatText c.replayPace}x",
    s!"  Assist after: {intText c.assistAfter} failed attempts",
    s!"  Log level: {c.logLevel}"]

/-- The settings by name. -/
def values (c : Config) : List (String × Value) :=
  [("EXECUTOR_URL", .text c.executorUrl), ("EXECUTOR_TIMEOUT_MS", .int c.executorTimeoutMs),
    ("EXECUTOR_BASE64", .bool c.executorBase64),
    ("HEALTH_TIMEOUT_SECONDS", .float c.healthTimeoutSeconds),
    ("LOCAL_TIMEOUT_MS", .int c.localTimeoutMs), ("STEP_BUDGET", .int c.stepBudget),
    ("ACTION_BUDGET", .int c.actionBudget), ("REPLAY_PACE", .float c.replayPace),
    ("ASSIST_AFTER", .int c.assistAfter), ("SESSION_MAX_AGE_SECONDS", .int c.sessionMaxAgeSeconds),
    ("LOG_LEVEL", .text c.logLevel), ("LOG_JSON", .bool c.logJson),
    ("ALLOWED_ORIGINS", .list (c.allowedOrigins.map .text))]

def replaceInt (l : List (String × Value)) (name : String) (n : Int) : Int :=
  ((Value.lookup l name).bind Value.wholeOf?).getD n

def replaceFloat (l : List (String × Value)) (name : String) (x : Float) : Float :=
  ((Value.lookup l name).bind fun v => v.toFloat.toOption).getD x

/-- The settings with some limits and the pace replaced, by name. -/
def replace (c : Config) (l : List (String × Value)) : Config :=
  { c with
    executorTimeoutMs := replaceInt l "EXECUTOR_TIMEOUT_MS" c.executorTimeoutMs
    executorBase64 := ((Value.lookup l "EXECUTOR_BASE64").map Value.truthy).getD c.executorBase64
    localTimeoutMs := replaceInt l "LOCAL_TIMEOUT_MS" c.localTimeoutMs
    stepBudget := replaceInt l "STEP_BUDGET" c.stepBudget
    actionBudget := replaceInt l "ACTION_BUDGET" c.actionBudget
    replayPace := replaceFloat l "REPLAY_PACE" c.replayPace
    assistAfter := replaceInt l "ASSIST_AFTER" c.assistAfter
    sessionMaxAgeSeconds := replaceInt l "SESSION_MAX_AGE_SECONDS" c.sessionMaxAgeSeconds }

/-- How the executor is spoken to. -/
def executor (c : Config) : Executor.Settings :=
  { encoded := c.executorBase64, timeoutMs := c.executorTimeoutMs }

end Config

end PuzzleWorlds
