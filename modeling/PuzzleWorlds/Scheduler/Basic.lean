import PuzzleWorlds.Action.Codec
import PuzzleWorlds.Action.Describe
import PuzzleWorlds.Replay

/-! The scheduler owns a live world and puts a trace into it, one action at a time. It is primed
with a world, loaded with a trace, and stepped until it has settled. -/

namespace PuzzleWorlds

inductive Phase where
  | idle | priming | stepping | settled | cancelled
deriving DecidableEq, Repr

def Phase.name : Phase → String
  | idle => "idle"
  | priming => "priming"
  | stepping => "stepping"
  | settled => "settled"
  | cancelled => "cancelled"

/-- An action that was refused; the world was left as it was. -/
structure RejectedStep where
  index : Nat
  action : Action
  error : String
deriving Repr

def RejectedStep.toDict (r : RejectedStep) : Value :=
  .dict [("index", .nat r.index), ("action", r.action.toDict), ("error", .text r.error)]

/-- What listeners are told of a step: its position, its action and the world after it. -/
structure Notice (d : Domain) where
  index : Nat
  action : Action
  world : d.World

/-- `index` counts the actions of the trace that were consumed. `epoch` moves on with every replay
and every cancellation, so that a replay can tell whether it is still the current one. -/
structure Scheduler (d : Domain) where
  phase : Phase := .idle
  world : Option d.World := none
  log : ActionLog := d.newLog
  trace : Trace := []
  index : Nat := 0
  epoch : Nat := 0
  rejected : List RejectedStep := []
  pace : Float := 1.0
  listeners : List Nat := []

/-- A call that does not fit the phase. -/
inductive OutOfOrder where
  | load (phase : Phase)
  | step (phase : Phase)
deriving DecidableEq, Repr

def OutOfOrder.message : OutOfOrder → String
  | load p => s!"Cannot load a trace while {p.name}; call prime() first"
  | step p => s!"Cannot step while {p.name}"

/-- Why a step yields nothing: it came out of order, or a payload cannot be worked with. -/
inductive StepFault where
  | outOfOrder (why : OutOfOrder)
  | misfit (cause : Misfit)
deriving Repr

namespace Scheduler

variable {d : Domain}

/-- Listeners are known by a number; one may be subscribed several times. -/
def subscribe (s : Scheduler d) (listener : Nat) : Scheduler d :=
  { s with listeners := s.listeners ++ [listener] }

/-- Takes back the first subscription of a listener. -/
def unsubscribe (s : Scheduler d) (listener : Nat) : Scheduler d :=
  { s with listeners := s.listeners.erase listener }

def isStepping (s : Scheduler d) : Bool := s.phase == .stepping

/-- Stops the current replay; the world keeps the actions applied so far. -/
def cancel (s : Scheduler d) : Scheduler d :=
  { s with
    epoch := s.epoch + 1
    phase := match s.phase with
      | .priming | .stepping => .cancelled
      | p => p }

/-- Resets the world and the log. A replay under way is cancelled first. -/
def prime (s : Scheduler d) (w : d.World) : Scheduler d :=
  let s := if s.isStepping then s.cancel else s
  { s with phase := .priming, world := some w, log := d.newLog, trace := [], index := 0,
           rejected := [] }

def load (s : Scheduler d) (t : Trace) : Except OutOfOrder (Scheduler d) :=
  if s.phase == .priming then .ok { s with trace := t, index := 0, phase := .stepping }
  else .error (.load s.phase)

/-- The scheduler after an action had its effect on the world. -/
def consume (s : Scheduler d) (a : Action) : Reaction d.World → Scheduler d
  | .changed w _ => { s with index := s.index + 1, world := some w, log := s.log.record a }
  | .refused why =>
    { s with
      index := s.index + 1
      rejected := s.rejected ++ [⟨s.index, a, why.message⟩] }

/-- Takes the next action of the trace; at its end the scheduler has settled. An action that has no
description is consumed, but nobody is told of it. -/
def advance (s : Scheduler d) : Except Misfit (Option (Notice d)) × Scheduler d :=
  match s.trace[s.index]?, s.world with
  | some a, some w =>
    match d.apply w a with
    | .error m => (.error m, s)
    | .ok r =>
      let s := s.consume a r
      match a.describe with
      | .error m => (.error m, s)
      | .ok _ => (.ok (some ⟨s.index - 1, a, s.world.getD w⟩), s)
  | _, _ => (.ok none, { s with phase := .settled })

/-- Consumes one action, without waiting. A settled scheduler has none left. -/
def step (s : Scheduler d) : Except StepFault (Option (Notice d)) × Scheduler d :=
  match s.phase with
  | .settled => (.ok none, s)
  | .stepping => let (r, s) := s.advance; (r.mapError .misfit, s)
  | p => (.error (.outOfOrder (.step p)), s)

/-- Steps to the end of the trace, at most `n` times; the notices come in order. -/
def stepAll : Nat → Scheduler d → Except StepFault Unit × List (Notice d) × Scheduler d
  | 0, s => (.ok (), [], s)
  | n + 1, s =>
    match s.step with
    | (.error f, s) => (.error f, [], s)
    | (.ok none, s) => (.ok (), [], s)
    | (.ok (some notice), s) =>
      let (r, notices, s) := stepAll n s
      (r, notice :: notices, s)

/-- Steps through the rest of the trace. -/
def runToEnd (s : Scheduler d) : Except StepFault Unit × List (Notice d) × Scheduler d :=
  stepAll (s.trace.length - s.index + 1) s

def worldToDict (s : Scheduler d) : Value := Value.ofOption (s.world.map d.worldToDict)

/-- The scheduler as others see it. -/
def snapshot (s : Scheduler d) : List (String × Value) :=
  [("state", .text s.phase.name), ("index", .nat s.index), ("total", .nat s.trace.length),
    ("world", s.worldToDict), ("log", .list (Trace.toList s.log.entries)),
    ("rejected", .list (s.rejected.map RejectedStep.toDict))]

end Scheduler

end PuzzleWorlds
