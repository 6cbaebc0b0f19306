import PuzzleWorlds.Value.Basic

/-! Programs made from blocks. Variables and blocks are named by whatever values the workspace
uses, usually texts. -/

namespace PuzzleWorlds

inductive Expr where
  | literal (value : Value)
  | var (name : Value)
  | binary (op : String) (left right : Expr)
  | compare (op : String) (left right : Expr)
  | logic (op : String) (left right : Expr)
  | not (operand : Expr)
  | query (name : String) (args : List Expr)
  | field (target : Expr) (name : String)
  /-- A node of a kind that has no value. -/
  | unknown (kind : String)
deriving Repr, Inhabited

/-- A counting loop goes from `start` to `stop`, both included; its step is a magnitude. -/
inductive Stmt where
  | call (name : String) (args : List Expr) (blockId : Value)
  | loop (times : Expr) (body : List Stmt) (blockId : Value)
  | count (var : Value) (start stop : Expr) (step : Option Expr) (body : List Stmt)
      (blockId : Value)
  | each (var : Value) (collection : String) (body : List Stmt) (blockId : Value)
  | branch (condition : Expr) (body otherwise : List Stmt) (blockId : Value)
  | assign (name : Value) (value : Expr) (blockId : Value)
  /-- A node of a kind that cannot be executed. -/
  | unknown (kind : String)
deriving Repr, Inhabited

structure Program where
  statements : List Stmt := []
  blockCount : Nat := 0
deriving Repr, Inhabited

end PuzzleWorlds
