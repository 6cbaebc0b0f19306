import PuzzleWorlds.Script.Flaw

/-! Syntax trees of scripts. They keep what calls and assignment targets depend on; every other
construct is a node that is named for messages. -/

namespace PuzzleWorlds.Script

inductive Form where
  | name (id : String)
  | member (id : String)
  | item
  | call
  | starred
  | tuple
  | list
  | comparison (first : String)
  | other (what : String)
deriving DecidableEq, Repr

/-- What the form is called in messages. -/
def Form.what : Form → String
  | name id => id
  | member _ => "attribute"
  | item => "subscript"
  | call => "function call"
  | starred => "starred"
  | tuple => "tuple"
  | list => "list"
  | comparison _ => "comparison"
  | other what => what

/-- The line is counted from one, the column from zero. -/
inductive Tree where
  | node (form : Form) (line column : Nat) (children : List Tree)
deriving Repr

namespace Tree

def form : Tree → Form
  | node f _ _ _ => f

def line : Tree → Nat
  | node _ n _ _ => n

def column : Tree → Nat
  | node _ _ n _ => n

def children : Tree → List Tree
  | node _ _ _ cs => cs

/-- Whether the tree is a call of something with one of the known names: a plain name, or a member
of any object. -/
def isCallOf (known : String → Bool) : Tree → Bool
  | node .call _ _ (node (.name id) _ _ _ :: _) => known id
  | node .call _ _ (node (.member id) _ _ _ :: _) => known id
  | _ => false

mutual

/-- The number of calls of known names in the tree. -/
def countCalls (known : String → Bool) (t : Tree) : Nat :=
  match t with
  | node f line column children =>
    (if isCallOf known (node f line column children) then 1 else 0) +
      countCallsAll known children

def countCallsAll (known : String → Bool) : List Tree → Nat
  | [] => 0
  | t :: rest => countCalls known t + countCallsAll known rest

end

/-- What a target is used for. -/
inductive Use where
  | assigned | deleted | looped
deriving DecidableEq, Repr

mutual

/-- The first part that cannot be assigned to, or deleted. -/
def badTarget? (use : Use) : Tree → Option Tree
  | node (.name _) _ _ _ | node (.member _) _ _ _ | node .item _ _ _ => none
  | node .tuple _ _ parts | node .list _ _ parts => badTargetAmong? use parts
  | node .starred line column parts =>
    if use == .deleted then some (node .starred line column parts) else badTargetAmong? use parts
  | node (.comparison op) line column (first :: others) =>
    if use == .looped then
      if op == "in" then badTarget? use first else none
    else some (node (.comparison op) line column (first :: others))
  | t => some t

def badTargetAmong? (use : Use) : List Tree → Option Tree
  | [] => none
  | t :: rest => (badTarget? use t).or (badTargetAmong? use rest)

end

/-- Whether the tree can be the only target of an assignment with a type or an operator. -/
def isSingleTarget (t : Tree) : Bool :=
  match t.form with
  | .name _ | .member _ | .item => true
  | _ => false

end Tree

end PuzzleWorlds.Script
