import PuzzleWorlds.Domain.Registry
import PuzzleWorlds.Json.Read
import PuzzleWorlds.Json.Write
import PuzzleWorlds.Text.Blank

/-! Events in printed output. A program that runs elsewhere prints one marked line for each command
that it calls; every other line is its own output. -/

namespace PuzzleWorlds

/-- A call of a command, by name. -/
structure Event where
  name : String
  args : List Value := []
deriving Repr

namespace Event

def marker : String := "@@blockykids:action"

def payload (e : Event) : Value := .dict [("name", .text e.name), ("args", .list e.args)]

/-- The line that reports the event, if its arguments have a JSON text. -/
def line (e : Event) : Except Misfit String :=
  (Json.text e.payload).map fun t => marker ++ " " ++ t

/-- The event in a payload; the arguments may be left out. -/
def ofPayload? : Value → Option Event
  | .dict es =>
    match Value.lookup es "name", (Value.lookup es "args").getD (.list []) with
    | some (.text name), .list args => some { name, args }
    | _, _ => none
  | _ => none

def ofLine? (line : String) : Option Event :=
  if line.startsWith marker then
    match Json.read (strip (line.drop marker.length).toString) with
    | .ok v => ofPayload? v
    | .error _ => none
  else none

/-- The events in an output, and its other lines, both in the order in which they were printed. -/
def ofOutput (stdout : String) : List Event × List String :=
  let lines := splitLines stdout
  (lines.filterMap ofLine?, lines.filter fun l => (ofLine? l).isNone)

end Event

namespace Registry

variable {d : Domain}

/-- Calls the commands of the events in order, up to the first one that is refused. -/
def applyEvents (r : Registry d) : List Event → Except Fault Unit × Registry d
  | [] => (.ok (), r)
  | e :: rest =>
    match r.invoke e.name e.args with
    | (.ok _, r) => r.applyEvents rest
    | (.error f, r) => (.error f, r)

end Registry

end PuzzleWorlds
