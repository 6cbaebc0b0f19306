import PuzzleWorlds.Program.Syntax
import PuzzleWorlds.Value.Render

/-! Programs as documents. Each expression and each statement is a dictionary with its kind under
`k` and its parts under their names. -/

namespace PuzzleWorlds

/-- A value inside another one. -/
abbrev Value.Part (v : Value) := { x : Value // sizeOf x < sizeOf v }

namespace Value

def part? (v : Value) (k : String) : Option v.Part :=
  match h : v.get? k with
  | some x => some ⟨x, sizeOf_get? h⟩
  | none => none

/-- The items of the list under a key; none if there is no list. -/
def partList (v : Value) (k : String) : List v.Part :=
  match v.part? k with
  | some ⟨.list l, h⟩ => l.attach.map fun x =>
    ⟨x.1, by have := List.sizeOf_lt_of_mem x.2; simp at h; omega⟩
  | _ => []

/-- The value under a key, and nothing if there is none. -/
def entry (v : Value) (k : String) : Value := ofOption (v.get? k)

end Value

namespace Expr

/-- The kinds of statements have no value; neither has what is no node at all. -/
def valueless (kind : String) : Expr :=
  if ["Call", "Repeat", "ForRange", "ForEach", "If", "Assign"].contains kind then .unknown kind
  else .unknown "object"

def ofNode (v : Value) : Expr :=
  let operand (k : String) : Expr := match v.part? k with
    | some ⟨x, _⟩ => ofNode x
    | none => valueless ""
  let text (k : String) : String := (v.entry k).display
  match text "k" with
  | "Literal" => .literal (v.entry "value")
  | "Variable" => .var (v.entry "name")
  | "BinaryOp" => .binary (text "op") (operand "left") (operand "right")
  | "Compare" => .compare (text "op") (operand "left") (operand "right")
  | "Logic" => .logic (text "op") (operand "left") (operand "right")
  | "Not" => .not (operand "operand")
  | "Query" => .query (text "name") ((v.partList "args").map fun ⟨x, _⟩ => ofNode x)
  | "Attribute" => .field (operand "target") (text "name")
  | kind => valueless kind
termination_by sizeOf v

def operation (kind op : String) (left right : Value) : Value :=
  .dict [("k", .text kind), ("op", .text op), ("left", left), ("right", right)]

def toNode : Expr → Value
  | .literal v => .dict [("k", "Literal"), ("value", v)]
  | .var name => .dict [("k", "Variable"), ("name", name)]
  | .binary op a b => operation "BinaryOp" op a.toNode b.toNode
  | .compare op a b => operation "Compare" op a.toNode b.toNode
  | .logic op a b => operation "Logic" op a.toNode b.toNode
  | .not a => .dict [("k", "Not"), ("operand", a.toNode)]
  | .query name args =>
    .dict [("k", "Query"), ("name", .text name), ("args", .list (args.map toNode))]
  | .field t name => .dict [("k", "Attribute"), ("target", t.toNode), ("name", .text name)]
  | .unknown kind => .dict [("k", .text kind)]

end Expr

namespace Stmt

def ofNode (v : Value) : Stmt :=
  let expr (k : String) : Expr := Expr.ofNode (v.entry k)
  let body (k : String) : List Stmt := (v.partList k).map fun ⟨x, _⟩ => ofNode x
  let id := v.entry "block_id"
  match (v.entry "k").display with
  | "Call" => .call (v.entry "name").display ((v.partList "args").map fun x => Expr.ofNode x.1) id
  | "Repeat" => .loop (expr "times") (body "body") id
  | "ForRange" =>
    let step := if (v.entry "step").isNull then none else some (expr "step")
    .count (v.entry "var") (expr "start") (expr "end") step (body "body") id
  | "ForEach" => .each (v.entry "var") (v.entry "collection").display (body "body") id
  | "If" => .branch (expr "condition") (body "body") (body "orelse") id
  | "Assign" => .assign (v.entry "name") (expr "value") id
  | kind => .unknown kind
termination_by sizeOf v

def toNode : Stmt → Value
  | .call name args id =>
    .dict [("k", "Call"), ("name", .text name), ("args", .list (args.map Expr.toNode)),
      ("block_id", id)]
  | .loop times body id =>
    .dict [("k", "Repeat"), ("times", times.toNode), ("body", .list (body.map toNode)),
      ("block_id", id)]
  | .count var start stop step body id =>
    .dict [("k", "ForRange"), ("var", var), ("start", start.toNode), ("end", stop.toNode),
      ("body", .list (body.map toNode)), ("step", Value.ofOption (step.map Expr.toNode)),
      ("block_id", id)]
  | .each var collection body id =>
    .dict [("k", "ForEach"), ("var", var), ("collection", .text collection),
      ("body", .list (body.map toNode)), ("block_id", id)]
  | .branch condition body otherwise id =>
    .dict [("k", "If"), ("condition", condition.toNode), ("body", .list (body.map toNode)),
      ("orelse", .list (otherwise.map toNode)), ("block_id", id)]
  | .assign name value id =>
    .dict [("k", "Assign"), ("name", name), ("value", value.toNode), ("block_id", id)]
  | .unknown kind => .dict [("k", .text kind)]

end Stmt

namespace Program

def ofNodes (nodes : List Value) : Program := { statements := nodes.map Stmt.ofNode }

def toNodes (p : Program) : List Value := p.statements.map Stmt.toNode

end Program

end PuzzleWorlds
