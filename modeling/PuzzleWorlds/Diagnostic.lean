import PuzzleWorlds.Action.Codec

/-! Reports on runs that stopped before their end. -/

namespace PuzzleWorlds

inductive DiagnosticKind where
  | compileError | runtimeError | timeout | sandboxUnavailable
deriving DecidableEq, Repr

def DiagnosticKind.name : DiagnosticKind → String
  | compileError => "compile_error"
  | runtimeError => "runtime_error"
  | timeout => "timeout"
  | sandboxUnavailable => "sandbox_unavailable"

/-- A place in a program: a line and column of source, or a block by whatever identifier the
workspace gave it. -/
structure Location where
  line : Option Int := none
  column : Option Int := none
  blockId : Value := .null
deriving Repr

def Location.toDict (l : Location) : Value :=
  .dict [("line", Value.ofOption (l.line.map .int)), ("column", Value.ofOption (l.column.map .int)),
    ("block_id", l.blockId)]

/-- `partialTrace` holds the actions recorded before a runtime error. -/
structure Diagnostic where
  kind : DiagnosticKind
  message : String
  location : Option Location := none
  partialTrace : Trace := []
deriving Repr

namespace Diagnostic

def toDict (d : Diagnostic) : Value :=
  .dict [("kind", .text d.kind.name), ("message", .text d.message),
    ("location", Value.ofOption (d.location.map Location.toDict)),
    ("partial_trace",
      if d.partialTrace.isEmpty then .null else .list (Trace.toList d.partialTrace))]

end Diagnostic

/-- How the execution of a program ended, with the plain lines that it printed. -/
inductive Outcome where
  | finished (trace : Trace) (output : List String)
  | failed (diagnostic : Diagnostic) (output : List String)
deriving Repr

namespace Outcome

def output : Outcome → List String
  | finished _ o | failed _ o => o

/-- The actions of the run, complete or not. -/
def actions : Outcome → Trace
  | finished t _ => t
  | failed d _ => d.partialTrace

def toDict : Outcome → Value
  | finished t o =>
    .dict [("ok", .bool true), ("trace", .list (Trace.toList t)), ("diagnostic", .null),
      ("output", .list (o.map .text))]
  | failed d o =>
    .dict [("ok", .bool false), ("trace", .null), ("diagnostic", d.toDict),
      ("output", .list (o.map .text))]

end Outcome

end PuzzleWorlds
