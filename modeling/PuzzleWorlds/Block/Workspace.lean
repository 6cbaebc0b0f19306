import PuzzleWorlds.Block.Problem
import PuzzleWorlds.Text.Blank
import PuzzleWorlds.Text.Identifier

/-! Reading the parts of a workspace: its top blocks and variables, the fields of a block, the
blocks plugged into it and the block that follows. -/

namespace PuzzleWorlds

/-- The entries of a block. -/
abbrev BlockEntries := List (String × Value)

/-- A value inside a block. -/
abbrev Inside (es : BlockEntries) := { v : Value // sizeOf v < sizeOf es }

namespace BlockEntries

def find? (es : BlockEntries) (k : String) : Option (Inside es) :=
  match h : Value.lookup es k with
  | some v => some ⟨v, Value.sizeOf_lookup h⟩
  | none => none

def get (es : BlockEntries) (k : String) : Value := Value.ofOption (Value.lookup es k)

def id (es : BlockEntries) : Value := get es "id"

/-- The entries of a value that must be a dictionary unless it counts as nothing. -/
def parts? (es : BlockEntries) (v : Inside es) :
    Except Misfit (Option { p : BlockEntries // sizeOf p < sizeOf es }) :=
  if !v.1.truthy then .ok none else
  match v with
  | ⟨.dict p, h⟩ => .ok (some ⟨p, by simp at h; omega⟩)
  | ⟨.record p, h⟩ => .ok (some ⟨p, by simp at h; omega⟩)
  | ⟨other, _⟩ => .error (.noAttribute other.typeName "get")

/-- The value under `k` in the dictionary under `outer`. -/
def inner? (es : BlockEntries) (outer k : String) : Except Misfit (Option (Inside es)) := do
  match es.find? outer with
  | none => return none
  | some v => match ← es.parts? v with
    | none => return none
    | some ⟨p, h⟩ => match find? p k with
      | none => return none
      | some ⟨x, hx⟩ => return some ⟨x, Nat.lt_trans hx h⟩

/-- The block that follows; a missing one and `null` are the same. -/
def next? (es : BlockEntries) : Except Misfit (Option (Inside es)) := do
  match ← es.inner? "next" "block" with
  | some v => return if v.1.isNull then none else some v
  | none => return none

/-- The block plugged into an input, or its shadow. -/
def plugged? (es : BlockEntries) (name : String) : Except Misfit (Option (Inside es)) := do
  match ← es.inner? "inputs" name with
  | some ⟨.dict slot, h⟩ =>
    let inside (k : String) : Option (Inside es) :=
      (find? slot k).map fun x => ⟨x.1, by have := x.2; simp at h; omega⟩
    let chosen := match inside "block" with
      | some b => if b.1.truthy then some b else inside "shadow"
      | none => inside "shadow"
    return chosen.filter fun v => !v.1.isNull
  | _ => return none

/-- The value of a field, if the block has it. -/
def field? (es : BlockEntries) (name : String) : Except Misfit (Option Value) :=
  let fields := es.get "fields"
  if !fields.truthy then .ok none else
  match fields with
  | .dict l | .record l => .ok (Value.lookup l name)
  | .text s =>
    if s.contains name then .error (.notAnIndex "str") else .ok none
  | .list l =>
    if l.any fun v => Value.same v (.text name) then .error (.notAnIndex "str") else .ok none
  | other => .error (.notIterable other.typeName)

/-- The inputs of a block whose names are `IF0`, `IF1` and so on without a gap. -/
def conditions (es : BlockEntries) : Except Misfit (List Nat) :=
  let inputs := es.get "inputs"
  if !inputs.truthy then .ok [] else
  let run (has : String → Bool) (size : Nat) : List Nat :=
    (List.range (size + 1)).takeWhile fun i => has s!"IF{natText i}"
  match inputs with
  | .dict l | .record l => .ok (run (fun k => l.any fun e => e.1 == k) l.length)
  | .list l => .ok (run (fun k => l.any fun v => Value.same v (.text k)) l.length)
  | .text s => .ok (run (fun k => s.contains k) s.length)
  | other => .error (.notIterable other.typeName)

end BlockEntries

/-- The top blocks of a workspace and the names of its variables by their identifiers. -/
structure Workspace where
  blocks : List Value
  names : List (Value × Value) := []

namespace Workspace

/-- The name of a variable by its identifier. -/
def name? (vars : List (Value × Value)) (id : Value) : Option Value :=
  (vars.find? fun v => Value.same v.1 id).map (·.2)

def declare : List (Value × Value) → Value → Value → List (Value × Value)
  | [], id, name => [(id, name)]
  | v :: rest, id, name =>
    if Value.same v.1 id then (v.1, name) :: rest else v :: declare rest id name

def variablesOf : List Value → List (Value × Value) → Except Misfit (List (Value × Value))
  | [], vars => .ok vars
  | v :: rest, vars =>
    match v with
    | .dict es => match Value.lookup es "id", Value.lookup es "name" with
      | some id, some name => do
        id.keyed
        variablesOf rest (declare vars id name)
      | _, _ => variablesOf rest vars
    | _ => variablesOf rest vars

/-- A workspace is a list of blocks, a single block, or a dictionary with blocks and variables. -/
def ofValue (v : Value) : Except BlockStop Workspace := do
  match v with
  | .list blocks => return { blocks }
  | .dict es =>
    if (Value.lookup es "type").isSome then return { blocks := [v] }
    let declared := BlockEntries.get es "variables"
    let items ← if declared.truthy then liftMisfit declared.parts else pure []
    let names ← liftMisfit (variablesOf items [])
    let listed := (Value.lookup es "blocks").getD (.list [])
    let blocks := match listed with
      | .dict inner => (Value.lookup inner "blocks").getD (.list [])
      | other => other
    match blocks with
    | .list blocks => return { blocks, names }
    | _ => throw (.problem .blocksNotList .null)
  | _ => throw (.problem .notWorkspace .null)
where
  liftMisfit {α : Type} (x : Except Misfit α) : Except BlockStop α := x.mapError .misfit

end Workspace

end PuzzleWorlds
