import PuzzleWorlds.Block.Compile
import PuzzleWorlds.Executor.Outcome
import PuzzleWorlds.Program.Run
import PuzzleWorlds.Session.Basic

/-! Runs of a session. A run compiles a program, executes it and replays its trace. It waits where
something else may happen meanwhile: for a reply of the executor, and in every pause of its replay.
What it does when it goes on depends on whether it is still the newest run. -/

namespace PuzzleWorlds

/-- What a run waits for. -/
inductive Waiting (d : Domain) where
  | reply (submission : Submission) (settings : Executor.Settings) (registry : Registry d)
  | pause (play : Play) (outcome : Outcome)

/-- A run that has begun and is not over. -/
structure Run (d : Domain) where
  id : Nat
  warnings : List String
  waiting : Waiting d

/-- Whether the replay that a run pauses in is still the current one. A run that waits for a reply
cannot tell. -/
def Run.isWanted {d : Domain} (run : Run d) (s : Session d) : Bool :=
  match run.waiting with
  | .reply .. => true
  | .pause play _ => play.isCurrent s.scheduler

/-- How far a run has come: it is over, has sent its program away, or pauses for some seconds. -/
inductive RunState (d : Domain) where
  | over (result : RunResult)
  | sent (run : Run d)
  | paused (seconds : Float) (run : Run d)

/-- A stretch of a run, with the notice of the action that it replayed. -/
structure Stretch (d : Domain) where
  notice : Option (Notice d) := none
  state : RunState d

/-- How a run sets out: its program is refused, has an outcome already, or waits for the
executor. -/
inductive Start (d : Domain) where
  | refused (diagnostic : Diagnostic) (warnings : List String)
  | returned (outcome : Outcome) (warnings : List String)
  | submitted (submission : Submission) (settings : Executor.Settings) (registry : Registry d)
      (warnings : List String)

/-- The clock of local runs: each reading comes a nanosecond after the last. -/
def nanoseconds (n : Nat) : Float := n.toFloat / 1000000000.0

namespace Session

variable {d : Domain}

/-- Begins a run. What older runs still do is no longer wanted. -/
def beginRun (s : Session d) (now : Float) : Except Fault Nat × Session d :=
  let s := { s.touch now with epoch := s.epoch + 1, lastVerdict := none }
  match s.initialWorld with
  | .error f => (.error f, s)
  | .ok w => (.ok s.epoch, { s with scheduler := s.scheduler.prime w })

/-- The result of a run that stopped before its end. Only the newest run counts as an attempt. -/
def finishFailed (s : Session d) (runId : Nat) (diagnostic : Diagnostic) (replayed : Nat)
    (output warnings : List String) : RunResult × Session d :=
  let result : RunResult :=
    { runId, status := .failed, trace := diagnostic.partialTrace, diagnostic := some diagnostic,
      replayed, output, warnings }
  if runId == s.epoch then
    (result, { s with failedAttempts := s.failedAttempts + 1, lastRun := some result })
  else (result, s)

def failed (s : Session d) (runId : Nat) (diagnostic : Diagnostic) (replayed : Nat)
    (output warnings : List String) : Except Fault (Stretch d) × Session d :=
  let (result, s) := s.finishFailed runId diagnostic replayed output warnings
  (.ok { state := .over result }, s)

/-- The result of a run whose replay has ended. -/
def conclude (s : Session d) (runId : Nat) (outcome : Outcome) (warnings : List String)
    (settled : Bool) : RunResult × Session d :=
  match outcome with
  | .failed diagnostic output =>
    s.finishFailed runId diagnostic s.scheduler.index output warnings
  | .finished trace output =>
    let isNewest := runId == s.epoch
    let result : RunResult :=
      { runId, status := if settled then .completed else .cancelled, trace,
        replayed := if isNewest then s.scheduler.index else 0, output, warnings }
    (result, if isNewest then { s with lastRun := some result } else s)

/-- A turn of the replay of an outcome. -/
def replayOn (s : Session d) (runId : Nat) (play : Play) (outcome : Outcome)
    (warnings : List String) : Except Fault (Stretch d) × Session d :=
  match play.proceed s.scheduler with
  | (.error m, scheduler) => (.error (.misfit m), { s with scheduler })
  | (.ok (notice, .pausing seconds), scheduler) =>
    (.ok { notice, state := .paused seconds ⟨runId, warnings, .pause play outcome⟩ },
      { s with scheduler })
  | (.ok (notice, .ended settled), scheduler) =>
    let (result, s) := { s with scheduler }.conclude runId outcome warnings settled
    (.ok { notice, state := .over result }, s)

/-- Begins the replay of the actions of an outcome. -/
def replay (s : Session d) (runId : Nat) (outcome : Outcome) (warnings : List String) :
    Except Fault (Stretch d) × Session d :=
  match s.initialWorld with
  | .error f => (.error f, s)
  | .ok w =>
    let (play, scheduler) := Play.begin s.scheduler outcome.actions w
    { s with scheduler }.replayOn runId play outcome warnings

/-- What follows from an outcome: nothing for a run that is not the newest, else a replay if there
is something to show. -/
def finish (s : Session d) (runId : Nat) (outcome : Outcome) (warnings : List String) :
    Except Fault (Stretch d) × Session d :=
  if runId != s.epoch then
    (.ok { state := .over { runId, status := .stale, warnings } }, s)
  else match outcome with
    | .finished .. => s.replay runId outcome warnings
    | .failed diagnostic output =>
      if !diagnostic.partialTrace.isEmpty && d.partialReplay then s.replay runId outcome warnings
      else s.failed runId diagnostic 0 output warnings

def limits (s : Session d) : Limits :=
  { stepBudget := s.config.stepBudget, timeoutMs := s.config.localTimeoutMs, clock := nanoseconds }

/-- The outcome of a program of blocks, with the warnings about it. -/
def execute (s : Session d) (p : Program) : Except Fault Outcome :=
  match Registry.create s.level s.config.actionBudget with
  | .error f => .error f
  | .ok r => (p.run s.limits r).mapError .misfit

/-- What comes of a workspace: it is compiled and run here. -/
def startBlocks (s : Session d) (workspace : Value) : Except Fault (Start d) :=
  match compileBlocks workspace d with
  | .error m => .error (.misfit m)
  | .ok (.failed diagnostic) => .ok (.refused diagnostic [])
  | .ok (.done p warnings) => (s.execute p).map fun outcome => .returned outcome warnings

def noExecutor : Diagnostic :=
  { kind := .sandboxUnavailable, message := "No code runner is configured" }

/-- What comes of a submission: it is sent away, unless it is refused at once. -/
def submit (s : Session d) (p : Submission) (warnings : List String) : Except Fault (Start d) :=
  match s.executor with
  | none => .ok (.refused noExecutor warnings)
  | some settings =>
    match Registry.create s.level s.config.actionBudget with
    | .error f => .error f
    | .ok r =>
      match Executor.refusal? p s.config.executorTimeoutMs with
      | some outcome => .ok (.returned outcome warnings)
      | none => .ok (.submitted p settings r warnings)

/-- What comes of a script: it is compiled and sent to the executor. -/
def startSource (s : Session d) (source : String) (language : Int) : Except Fault (Start d) :=
  match compileScript source s.level language with
  | .error m => .error (.misfit m)
  | .ok (.failed diagnostic) => .ok (.refused diagnostic [])
  | .ok (.done p warnings) => s.submit p warnings

/-- The first stretch of a run. -/
def setOut (s : Session d) (runId : Nat) : Start d → Except Fault (Stretch d) × Session d
  | .refused diagnostic warnings => s.failed runId diagnostic 0 [] warnings
  | .returned outcome warnings => s.finish runId outcome warnings
  | .submitted p settings r warnings =>
    (.ok { state := .sent ⟨runId, warnings, .reply p settings r⟩ }, s)

/-- Begins a run of a program, which `start` compiles. -/
def launch (s : Session d) (start : Session d → Except Fault (Start d)) (now : Float) :
    Except Fault (Stretch d) × Session d :=
  match s.beginRun now with
  | (.error f, s) => (.error f, s)
  | (.ok runId, s) =>
    match start s with
    | .error f => (.error f, s)
    | .ok x => s.setOut runId x

/-- Compiles a workspace, runs it here and replays its trace. -/
def runBlocks (s : Session d) (workspace : Value) (now : Float) :
    Except Fault (Stretch d) × Session d :=
  s.launch (fun s => s.startBlocks workspace) now

/-- Compiles a script and sends it to the executor. -/
def runSource (s : Session d) (source : String) (language : Int) (now : Float) :
    Except Fault (Stretch d) × Session d :=
  s.launch (fun s => s.startSource source language) now

/-- A run goes on with the executor's reply. A run that waits for none is woken by it. -/
def receive (s : Session d) (run : Run d) (reply : Executor.Reply) :
    Except Fault (Stretch d) × Session d :=
  match run.waiting with
  | .reply p settings r =>
    match Executor.settle settings s.config.executorTimeoutMs p reply r with
    | .error m => (.error (.misfit m), s)
    | .ok outcome => s.finish run.id outcome run.warnings
  | .pause play outcome => s.replayOn run.id play outcome run.warnings

/-- A run wakes from a pause. A run that waits for a reply goes on waiting. -/
def wake (s : Session d) (run : Run d) : Except Fault (Stretch d) × Session d :=
  match run.waiting with
  | .reply .. => (.ok { state := .sent run }, s)
  | .pause play outcome => s.replayOn run.id play outcome run.warnings

/-- What a run showed until it was over: its notices, the pauses between them, and how often it
sent its program away. -/
structure Showing (d : Domain) where
  notices : List (Notice d) := []
  pauses : List Float := []
  sent : Nat := 0

/-- Lets a run go on to its end with nothing else happening; the executor answers with `reply`. -/
def completeIn (reply : Executor.Reply) :
    Nat → Showing d → Except Fault (Stretch d) × Session d →
    Except Fault RunResult × Showing d × Session d
  | _, shown, (.error f, s) => (.error f, shown, s)
  | 0, shown, (.ok x, s) =>
    let id := match x.state with
      | .over r => r.runId
      | .sent run | .paused _ run => run.id
    (.ok { runId := id, status := .cancelled }, shown, s)
  | fuel + 1, shown, (.ok x, s) =>
    let shown := { shown with notices := shown.notices ++ x.notice.toList }
    match x.state with
    | .over r => (.ok r, shown, s)
    | .sent run => completeIn reply fuel { shown with sent := shown.sent + 1 } (s.receive run reply)
    | .paused seconds run =>
      completeIn reply fuel { shown with pauses := shown.pauses ++ [seconds] } (s.wake run)

/-- Lets a run go on to its end. The replay of `n` actions takes `n + 1` stretches at most, the
reply one more, and a trace is never longer than the budget of actions. -/
def complete (reply : Executor.Reply) (x : Except Fault (Stretch d) × Session d) :
    Except Fault RunResult × Showing d × Session d :=
  completeIn reply (x.2.config.actionBudget.toNat + 3) {} x

end Session

end PuzzleWorlds
