import PuzzleWorlds.Action.Basic

/-! Actions as dictionaries. Unused parameters are left out, and tuples are written as lists. -/

namespace PuzzleWorlds

namespace Value

/-- A tuple as a list. -/
def untuple : Value → Value
  | tuple l => list l
  | v => v

/-- A list as a tuple. -/
def retuple : Value → Value
  | list l => tuple l
  | v => v

end Value

namespace Payload

def toEntries (p : Payload) : List (String × Value) :=
  (Field.all.filter fun f => !(p.get f).isNull).map fun f => (f.name, (p.get f).untuple)

/-- Reads the parameters of an action of the kind called `kind`. -/
def ofEntries (kind : String) : List (String × Value) → Payload → Except Misfit Payload
  | [], p => .ok p
  | (k, v) :: rest, p =>
    if k == "type" then ofEntries kind rest p else
    match Field.ofName? k with
    | some f => ofEntries kind rest (p.set f v.retuple)
    | none => .error (.badPayloadField k kind)

end Payload

namespace Action

def toEntries (a : Action) : List (String × Value) :=
  ("type", .text a.kind.name) :: a.payload.toEntries

def toDict (a : Action) : Value := .dict a.toEntries

/-- The kind that a dictionary names under `type`. -/
def kindOf? (data : Value) : Option ActionKind :=
  match data.get? "type" with
  | some (.text s) => ActionKind.ofName? s
  | _ => none

/-- The action that a dictionary describes. -/
def ofDict (data : Value) : Except Misfit Action :=
  match data with
  | .dict es | .record es => match kindOf? data with
    | none => .error (.badAction data)
    | some k => (Payload.ofEntries k.name es {}).map fun p => ⟨k, p⟩
  | .list _ | .tuple _ | .text _ => .error (.notAnIndex "str")
  | v => .error (.notSubscriptable v.typeName)

end Action

namespace Trace

def toList (t : Trace) : List Value := t.map Action.toDict

def ofList (items : List Value) : Except Misfit Trace := items.mapM Action.ofDict

end Trace

end PuzzleWorlds
