import PuzzleWorlds.Block.Workspace
import PuzzleWorlds.Block.Spec
import PuzzleWorlds.Program.Syntax
import PuzzleWorlds.Text.Casing
import PuzzleWorlds.Value.Compare

/-! Compiling a workspace into a program. Stacks become statements in the order of the document,
value blocks become expressions, and the blocks of a world become calls of its commands. Bodies
and plugged-in values may be nested up to a limit. -/

namespace PuzzleWorlds

/-- How deeply bodies, and plugged-in values, may be nested. -/
def maxNesting : Nat := 100

/-- A compilation counts the blocks that it meets. -/
abbrev Compiling (α : Type) := StateT Nat (Except BlockStop) α

namespace Compiling

def stop (p : BlockProblem) (id : Value) : Compiling α := fun _ => .error (.problem p id)

def lift (x : Except Misfit α) : Compiling α := fun n =>
  match x with
  | .ok a => .ok (a, n)
  | .error m => .error (.misfit m)

def countBlock : Compiling Unit := modify (· + 1)

/-- The text of a value, unless it cannot be written. -/
def textOf (v : Value) : Compiling String :=
  lift (if v.writable then .ok v.display else .error .unwritable)

end Compiling

/-- What a compilation knows: the world and the names of the workspace. -/
structure Editor where
  domain : Domain
  names : List (Value × Value) := []

namespace Block

open Compiling

/-- A block is a dictionary with a type. -/
def typed? : Value → Option (String × BlockEntries)
  | .dict es => match Value.lookup es "type" with
    | some (.text t) => some (t, es)
    | _ => none
  | _ => none

def idOf : Value → Value
  | .dict es => BlockEntries.id es
  | _ => .null

/-- A field, else a default, else the block is at fault. -/
def field (type : String) (es : BlockEntries) (name : String) (default : Option Value) :
    Compiling Value := do
  match ← lift (BlockEntries.field? es name) with
  | some v => return v
  | none => match default with
    | some v => return v
    | none => stop (.missingField type name) (BlockEntries.id es)

/-- The variable that a block names, directly or by a reference. -/
def variableName (ed : Editor) (type : String) (es : BlockEntries) (default : Option String) :
    Compiling Value := do
  let v ← field type es "VAR" (default.map .text)
  match v with
  | .dict ref =>
    let id := BlockEntries.id ref
    lift id.keyed
    match Workspace.name? ed.names id with
    | some name => return name
    | none =>
      let given := BlockEntries.get ref "name"
      if given.truthy then return .text (← textOf given)
      let _ ← textOf id
      stop (.unknownVariable id) (BlockEntries.id es)
  | v =>
    let name := strip (← textOf v)
    if isIdentifier name then return .text name
    stop (.badVariableName name) (BlockEntries.id es)

def arithmetic? (s : String) : Option Operator :=
  match s with
  | "ADD" => some .add
  | "MINUS" => some .sub
  | "MULTIPLY" => some .mul
  | "DIVIDE" => some .div
  | "MODULO" => some .mod
  | s => Operator.ofSymbol? s

def comparison? (s : String) : Option Value.Comparison :=
  match s with
  | "EQ" => some .eq
  | "NEQ" => some .ne
  | "LT" => some .lt
  | "LTE" => some .le
  | "GT" => some .gt
  | "GTE" => some .ge
  | s => Value.Comparison.ofSymbol? s

def fixedArithmetic? : String → Option Operator
  | "math_add" => some .add
  | "math_subtract" => some .sub
  | "math_multiply" => some .mul
  | _ => none

mutual

/-- The expression of an argument: a plugged-in block, else a field, else the default. -/
def argument (ed : Editor) (depth : Nat) (type : String) (es : BlockEntries) (name : String)
    (default : Option Value) : Compiling Expr := do
  match ← lift (BlockEntries.plugged? es name) with
  | some ⟨child, _⟩ =>
    if depth + 1 > maxNesting then stop .pluggedTooDeeply (BlockEntries.id es)
    else expression ed (depth + 1) child
  | none =>
    match ← lift (BlockEntries.field? es name) with
    | some v => return .literal v
    | none => match default with
      | some v => return .literal v
      | none => stop (.missingArgument type name) (BlockEntries.id es)
termination_by (sizeOf es, 0, 0)

/-- The arguments of a block that stands for a command. -/
def arguments (ed : Editor) (depth : Nat) (type : String) (es : BlockEntries) :
    List BlockArg → Compiling (List Expr)
  | [] => return []
  | a :: rest => do
    let e ← argument ed depth type es a.name (if a.default.isNull then none else some a.default)
    let others ← arguments ed depth type es rest
    return e :: others
termination_by as => (sizeOf es, 1, as.length)

def expression (ed : Editor) (depth : Nat) (block : Value) : Compiling Expr := do
  match block with
  | .dict es =>
    match Value.lookup es "type" with
    | some (.text type) =>
      countBlock
      let arg (name : String) (default : Option Value) : Compiling Expr :=
        argument ed depth type es name default
      match type with
      | "math_number" => return .literal (← field type es "NUM" none)
      | "text" => return .literal (.text (← textOf (← field type es "TEXT" (some ""))))
      | "logic_boolean" =>
        let v ← field type es "BOOL" none
        return .literal (.bool (upperText (← textOf v) == "TRUE"))
      | "variables_get" => return .var (← variableName ed type es none)
      | "math_arithmetic" =>
        let v ← field type es "OP" (some "ADD")
        match arithmetic? (← textOf v) with
        | none => stop (.unknownArithmetic v) (BlockEntries.id es)
        | some op => return .binary op.symbol (← arg "A" (some 0)) (← arg "B" (some 0))
      | "compare_values" | "logic_compare" =>
        let v ← field type es "OP" (some "EQ")
        match comparison? (← textOf v) with
        | none => stop (.unknownComparison v) (BlockEntries.id es)
        | some op => return .compare op.symbol (← arg "A" none) (← arg "B" none)
      | "logic_operation" =>
        let v ← field type es "OP" (some "AND")
        let op := lowerText (← textOf v)
        if op == "and" || op == "or" then
          return .logic op (← arg "A" none) (← arg "B" none)
        stop (.unknownLogic op) (BlockEntries.id es)
      | "logic_negate" => return .not (← arg "BOOL" none)
      | "unit_attribute" =>
        let target ← arg "UNIT" none
        return .field target (← textOf (← field type es "ATTR" none))
      | _ =>
        match fixedArithmetic? type with
        | some op => return .binary op.symbol (← arg "A" (some 0)) (← arg "B" (some 0))
        | none => match ed.domain.blockSpec? type with
          | some spec =>
            if spec.query then return .query spec.command (← arguments ed depth type es spec.args)
            else stop (.unknownValue type) (BlockEntries.id es)
          | none => stop (.unknownValue type) (BlockEntries.id es)
    | _ => stop .malformed (BlockEntries.id es)
  | _ => stop .malformed .null
termination_by (sizeOf block, 2, 0)

end

mutual

/-- The statements plugged into an input, none when it is empty. -/
def body (ed : Editor) (depth : Nat) (es : BlockEntries) (name : String) :
    Compiling (List Stmt) := do
  match ← lift (BlockEntries.plugged? es name) with
  | none => return []
  | some ⟨child, _⟩ =>
    if depth + 1 > maxNesting then stop .nestedTooDeeply (BlockEntries.id es)
    else chain ed (depth + 1) child
termination_by (sizeOf es, 0, 0)

/-- The conditions of a branching block with their bodies. -/
def branches (ed : Editor) (depth : Nat) (type : String) (es : BlockEntries) :
    List Nat → Compiling (List (Expr × List Stmt))
  | [] => return []
  | i :: rest => do
    let condition ← argument ed 0 type es s!"IF{natText i}" none
    let stmts ← body ed depth es s!"DO{natText i}"
    let others ← branches ed depth type es rest
    return (condition, stmts) :: others
termination_by is => (sizeOf es, 1, is.length)

/-- The statements of one block. -/
def statement (ed : Editor) (depth : Nat) (type : String) (es : BlockEntries) :
    Compiling (List Stmt) := do
  countBlock
  let arg (name : String) (default : Option Value) : Compiling Expr :=
    argument ed 0 type es name default
  let id := BlockEntries.id es
  let counting (default : String) : Compiling (List Stmt) := do
    let given ← match ← lift (BlockEntries.plugged? es "BY") with
      | some _ => pure true
      | none => Option.isSome <$> lift (BlockEntries.field? es "BY")
    let step ← if given then some <$> arg "BY" none else pure none
    let var ← variableName ed type es (some default)
    let start ← arg "FROM" (some 0)
    let stop ← arg "TO" none
    return [.count var start stop step (← body ed depth es "DO") id]
  match type with
  | "repeat_times" | "controls_repeat" | "controls_repeat_ext" =>
    let times ← arg "TIMES" none
    return [.loop times (← body ed depth es "DO") id]
  | "for_loop" | "controls_for" => counting "i"
  | "for_loop_nested" => counting "j"
  | "for_each_enemy" =>
    let var ← variableName ed type es (some "enemy")
    return [.each var "enemies" (← body ed depth es "DO") id]
  | "if_compare" =>
    let condition ← arg "CONDITION" none
    let stmts ← body ed depth es "DO"
    return [.branch condition stmts (← body ed depth es "ELSE") id]
  | "controls_if" =>
    let bs ← branches ed depth type es (← lift (BlockEntries.conditions es))
    if bs.isEmpty then stop .noCondition id
    let otherwise ← body ed depth es "ELSE"
    return bs.foldr (fun b rest => [.branch b.1 b.2 rest id]) otherwise
  | "variables_set" =>
    let name ← variableName ed type es none
    return [.assign name (← arg "VALUE" (some 0)) id]
  | "math_set_var" =>
    let name ← variableName ed type es (some "x")
    return [.assign name (← arg "VALUE" (some 0)) id, .call "print_value" [.var name] id]
  | _ =>
    match ed.domain.blockSpec? type with
    | some spec => return [.call spec.command (← arguments ed 0 type es spec.args) id]
    | none => stop (.unknownStatement type) id
termination_by (sizeOf es, 2, 0)

/-- The statements of a block and of all that follow it. A disabled block is left out. -/
def chain (ed : Editor) (depth : Nat) (block : Value) : Compiling (List Stmt) := do
  match block with
  | .dict es =>
    match Value.lookup es "type" with
    | some (.text type) =>
      let enabled := match Value.lookup es "enabled" with
        | some (.bool false) => false
        | _ => true
      let stmts ← if enabled then statement ed depth type es else pure []
      match ← lift (BlockEntries.next? es) with
      | none => return stmts
      | some ⟨next, _⟩ => return stmts ++ (← chain ed depth next)
    | _ => stop .malformed (BlockEntries.id es)
  | _ => stop .malformed .null
termination_by (sizeOf block, 3, 0)

end

/-- The statements of the top blocks; a top block may be missing. -/
def allStatements (ed : Editor) : List Value → Compiling (List Stmt)
  | [] => return []
  | block :: rest => do
    let stmts ← if block.isNull then pure [] else chain ed 0 block
    return stmts ++ (← allStatements ed rest)

/-- The program that a workspace stands for. -/
def program (d : Domain) (workspace : Value) : Except BlockStop Program := do
  let w ← Workspace.ofValue workspace
  let (statements, blockCount) ← (allStatements ⟨d, w.names⟩ w.blocks).run 0
  return { statements, blockCount }

end Block

/-- A program with the warnings about it, or the report on why there is none. -/
inductive Compilation (P : Type) where
  | done (program : P) (warnings : List String)
  | failed (diagnostic : Diagnostic)
deriving Repr

namespace Compilation

def warnings : Compilation P → List String
  | done _ ws => ws
  | failed _ => []

def unknownDomain (name : String) : Compilation P :=
  .failed { kind := .compileError, message := s!"Unknown domain '{name}'" }

end Compilation

/-- Compiles a workspace for a world. A part of the wrong kind stops the compilation without a
report. -/
def compileBlocks (workspace : Value) (d : Domain) : Except Misfit (Compilation Program) :=
  match Block.program d workspace with
  | .ok p =>
    .ok (.done p (if p.statements.isEmpty then ["The workspace has no blocks to run"] else []))
  | .error (.problem what id) =>
    .ok (.failed
      { kind := .compileError, message := what.message, location := some { blockId := id } })
  | .error (.misfit m) => .error m

/-- Compiles a workspace for the world of a name. -/
def compileBlocksFor (workspace : Value) (domain : String) : Except Misfit (Compilation Program) :=
  match Domain.ofName? domain with
  | some d => compileBlocks workspace d
  | none => .ok (Compilation.unknownDomain domain)

end PuzzleWorlds
