import PuzzleWorlds.Action.Basic

/-! The log of applied actions that matter for goals. -/

namespace PuzzleWorlds

/-- A log of the actions of some kinds, or of all kinds when `kinds` is `none`. -/
structure ActionLog where
  kinds : Option (List ActionKind) := none
  entries : List Action := []
deriving Repr, Inhabited

namespace ActionLog

def accepts (log : ActionLog) (k : ActionKind) : Bool :=
  match log.kinds with
  | none => true
  | some ks => ks.contains k

/-- Adds an action at the end if its kind is logged. -/
def record (log : ActionLog) (a : Action) : ActionLog :=
  if log.accepts a.kind then { log with entries := log.entries ++ [a] } else log

def ofKind (log : ActionLog) (k : ActionKind) : List Action :=
  log.entries.filter fun a => a.kind == k

def contains (log : ActionLog) (k : ActionKind) : Bool := log.entries.any fun a => a.kind == k

/-- The notes played, in order. -/
def notes (log : ActionLog) : List Value := (log.ofKind .playNote).map fun a => a.payload.note

def size (log : ActionLog) : Nat := log.entries.length

def clear (log : ActionLog) : ActionLog := { log with entries := [] }

theorem entries_record (log : ActionLog) (a : Action) :
    (log.record a).entries = if log.accepts a.kind then log.entries ++ [a] else log.entries := by
  unfold record; split <;> simp_all

end ActionLog

end PuzzleWorlds
