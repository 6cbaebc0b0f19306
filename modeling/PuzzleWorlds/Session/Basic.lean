import PuzzleWorlds.Config
import PuzzleWorlds.Diagnostic
import PuzzleWorlds.Scheduler.Play

/-! Sessions. A session is one learner on one pack of levels, with the live world, the bookkeeping
of runs and attempts, and the verdict that lets the learner go on. -/

namespace PuzzleWorlds

/-- How a run ended. A stale run came back after a newer one had begun. -/
inductive RunStatus where
  | completed | failed | cancelled | stale
deriving DecidableEq, Repr

def RunStatus.name : RunStatus → String
  | completed => "completed"
  | failed => "failed"
  | cancelled => "cancelled"
  | stale => "stale"

/-- `replayed` counts the actions that the replay consumed, also those of an incomplete trace. -/
structure RunResult where
  runId : Nat
  status : RunStatus
  trace : Trace := []
  diagnostic : Option Diagnostic := none
  replayed : Nat := 0
  output : List String := []
  warnings : List String := []
deriving Repr

def RunResult.toDict (r : RunResult) : Value :=
  .dict [("run_id", .nat r.runId), ("status", .text r.status.name),
    ("trace", .list (Trace.toList r.trace)),
    ("diagnostic", Value.ofOption (r.diagnostic.map Diagnostic.toDict)),
    ("replayed", .nat r.replayed), ("output", .list (r.output.map .text)),
    ("warnings", .list (r.warnings.map .text))]

/-- Every run and every reset takes a new `epoch`, so that what comes back from an older run can be
told apart. `executor` is none where scripts cannot be run. -/
structure Session (d : Domain) where
  id : String
  config : Config
  executor : Option Executor.Settings
  levels : Array d.Level
  levelIndex : Fin levels.size
  scheduler : Scheduler d
  createdAt : Float
  lastActive : Float
  epoch : Nat := 0
  failedAttempts : Nat := 0
  lastRun : Option RunResult := none
  lastVerdict : Option Verdict := none
  completed : List Nat := []

/-- A level that is not in the pack. -/
structure NoSuchLevel where
  index : Int
  count : Nat
deriving DecidableEq, Repr

def NoSuchLevel.message (e : NoSuchLevel) : String :=
  s!"Level {intText e.index} does not exist (0..{intText ((e.count : Int) - 1)})"

/-- Inserts a number into an increasing list that does not repeat. -/
def insertOnce (n : Nat) : List Nat → List Nat
  | [] => [n]
  | m :: rest =>
    if n < m then n :: m :: rest else if n = m then m :: rest else m :: insertOnce n rest

namespace Session

variable {d : Domain}

def level (s : Session d) : d.Level := s.levels[s.levelIndex]

def initialWorld (s : Session d) : Except Fault d.World := d.initialWorld s.level

def isRunning (s : Session d) : Bool := s.scheduler.isStepping

/-- The hints that the learner may see: the first one after some failures, then one more with
each. -/
def hints (s : Session d) : List String :=
  let after := s.config.assistAfter
  if after ≤ 0 || (s.failedAttempts : Int) < after then []
  else (Domain.Level.header s.level).hints.take (1 + s.failedAttempts - after.toNat)

def touch (s : Session d) (now : Float) : Session d := { s with lastActive := now }

/-- Cancels any replay and rebuilds the world from the level. -/
def reset (s : Session d) (now : Float) : Except Fault Unit × Session d :=
  let s := { s.touch now with
    epoch := s.epoch + 1, lastVerdict := none, scheduler := s.scheduler.cancel }
  match s.initialWorld with
  | .error f => (.error f, s)
  | .ok w => (.ok (), { s with scheduler := s.scheduler.prime w })

def close (s : Session d) : Session d :=
  { s with epoch := s.epoch + 1, scheduler := s.scheduler.cancel }

def unfinished : Verdict :=
  .failed "Wait for the program to finish first" [("running", .bool true)]

/-- Records a verdict: a success completes the level, a failure counts as an attempt. -/
def judge (s : Session d) (v : Verdict) : Session d :=
  if v.success then
    { s with lastVerdict := some v, completed := insertOnce s.levelIndex s.completed }
  else { s with lastVerdict := some v, failedAttempts := s.failedAttempts + 1 }

/-- Judges the replayed world. While a replay steps, only free play can be judged. -/
def check (s : Session d) (now : Float) : Except Fault Verdict × Session d :=
  let s := s.touch now
  if s.isRunning && !Domain.Level.isFree s.level then (.ok unfinished, s)
  else
    let verdict := do
      let w ← match s.scheduler.world with
        | some w => pure w
        | none => s.initialWorld
      d.checkGoal s.level w s.scheduler.log
    match verdict with
    | .error f => (.error f, s)
    | .ok v => (.ok v, s.judge v)

def canAdvance (s : Session d) : Bool :=
  (s.lastVerdict.any fun v => v.success) && !Domain.Level.isFree s.level &&
    s.levelIndex.val + 1 < s.levels.size

/-- Goes to a level of the pack. -/
def goTo (s : Session d) (i : Fin s.levels.size) (now : Float) : Except Fault Unit × Session d :=
  { s with levelIndex := i, failedAttempts := 0, lastRun := none }.reset now

/-- Goes to the next level after a successful verdict. -/
def advance (s : Session d) (now : Float) : Except Fault Bool × Session d :=
  if s.canAdvance then
    if h : s.levelIndex.val + 1 < s.levels.size then
      let (r, s) := s.goTo ⟨s.levelIndex.val + 1, h⟩ now
      (r.map fun _ => true, s)
    else (.ok false, s)
  else (.ok false, s)

/-- The position of a level in the pack. -/
def position? (s : Session d) (i : Int) : Except NoSuchLevel (Fin s.levels.size) :=
  if h : 0 ≤ i ∧ i.toNat < s.levels.size then .ok ⟨i.toNat, h.2⟩
  else .error ⟨i, s.levels.size⟩

def toDict (s : Session d) : Value :=
  .dict [("session_id", .text s.id), ("domain", .text d.name),
    ("level_index", .nat s.levelIndex), ("level_count", .nat s.levels.size),
    ("level_id", (Domain.Level.header s.level).id.toValue),
    ("failed_attempts", .nat s.failedAttempts), ("hints", .list (s.hints.map .text)),
    ("completed_levels", .list (s.completed.map .nat)), ("can_advance", .bool s.canAdvance),
    ("last_run", Value.ofOption (s.lastRun.map RunResult.toDict)),
    ("last_verdict", Value.ofOption (s.lastVerdict.map Verdict.toDict)),
    ("replay", .dict s.scheduler.snapshot)]

end Session

end PuzzleWorlds
