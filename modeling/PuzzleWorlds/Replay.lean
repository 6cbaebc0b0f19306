import PuzzleWorlds.Domain.World

/-! Applying actions to worlds. A refused action leaves the world as it was and is not logged. -/

namespace PuzzleWorlds

namespace Domain

/-- What an action does to a world. The outer failure is a number beyond the range of floats, which
stops the whole replay. -/
def apply (d : Domain) (w : d.World) (a : Action) : Except Misfit (Reaction d.World) :=
  Reaction.settle (d.react w a)

/-- An action sent to the wrong domain's world is refused. -/
def refuseForeign (d world : Domain) : Reaction world.World := .refused (.foreignWorld d world)

/-- The world and the log after a reaction to an action. -/
def settleStep {d : Domain} (s : d.World × ActionLog) (a : Action) :
    Reaction d.World → d.World × ActionLog
  | .changed w _ => (w, s.2.record a)
  | .refused _ => s

/-- One step of a replay. -/
def replayStep (d : Domain) (s : d.World × ActionLog) (a : Action) :
    Except Misfit (d.World × ActionLog) := do
  return settleStep s a (← d.apply s.1 a)

/-- Applies the actions in order. -/
def replay (d : Domain) (w : d.World) (log : ActionLog) (t : Trace) :
    Except Misfit (d.World × ActionLog) :=
  t.foldlM d.replayStep (w, log)

/-- A reaction as a document. A world that changed is shown, with whether the log keeps the
action. -/
def reactionToDict {d : Domain} (log : ActionLog) (a : Action) : Reaction d.World → Value
  | .refused why =>
    .dict [("ok", .bool false), ("error", .text why.message), ("code", .text why.code),
      ("changes", .list [])]
  | .changed w changes =>
    .dict [("ok", .bool true), ("error", .null), ("code", .null),
      ("changes", .list (changes.map .text)), ("logged", .bool (log.accepts a.kind)),
      ("world", d.worldToDict w)]

end Domain

end PuzzleWorlds
