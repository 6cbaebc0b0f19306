import PuzzleWorlds.Scheduler.Basic

/-! Paced replays. A replay takes one action and then pauses; it goes on when it is woken. It ends
without another action once it is no longer the current one. -/

namespace PuzzleWorlds

/-- A replay under way, known by the epoch that it was begun with. -/
structure Play where
  epoch : Nat
deriving DecidableEq, Repr

/-- A replay pauses for some seconds, or has ended: settled, or superseded. -/
inductive Progress where
  | pausing (seconds : Float)
  | ended (settled : Bool)
deriving Repr

namespace Play

variable {d : Domain}

/-- Begins the replay of a trace from a world. -/
def begin (s : Scheduler d) (t : Trace) (w : d.World) : Play × Scheduler d :=
  let s := s.prime w
  let s := { s with epoch := s.epoch + 1, trace := t, index := 0, phase := .stepping }
  (⟨s.epoch⟩, s)

def isCurrent (p : Play) (s : Scheduler d) : Bool := s.epoch == p.epoch

/-- The next action of the replay, if it is still the current one and there is one. -/
def turn (p : Play) (s : Scheduler d) : Except Misfit (Option (Notice d)) × Scheduler d :=
  if p.isCurrent s && s.isStepping then s.advance else (.ok none, s)

def finish (p : Play) (s : Scheduler d) : Progress :=
  .ended (p.isCurrent s && s.phase == .settled)

/-- The pause after an action. A listener may have ended the replay meanwhile. -/
def pause (p : Play) (s : Scheduler d) (a : Action) : Except Misfit Progress :=
  if p.isCurrent s then (d.pacing a).map fun seconds => .pausing (seconds * s.pace)
  else .ok (.ended false)

/-- One turn of the replay, up to its next pause or its end, with the notice for its listeners. -/
def proceed (p : Play) (s : Scheduler d) :
    Except Misfit (Option (Notice d) × Progress) × Scheduler d :=
  match p.turn s with
  | (.error m, s) => (.error m, s)
  | (.ok none, s) => (.ok (none, p.finish s), s)
  | (.ok (some n), s) => ((p.pause s n.action).map fun progress => (some n, progress), s)

/-- Stops the replay from outside while it pauses. Whether it was the current one is told. -/
def abort (p : Play) (s : Scheduler d) : Bool × Scheduler d :=
  if p.isCurrent s then (true, s.cancel) else (false, s)

end Play

end PuzzleWorlds
