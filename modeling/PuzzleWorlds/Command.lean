import PuzzleWorlds.Fault
import PuzzleWorlds.Action.Basic

/-! Commands of a world: the names a program may call, their parameters and what a call yields. -/

namespace PuzzleWorlds

structure Param where
  name : String
  default : Option Value := none
deriving Repr

/-- How a command is called. A query gives a value back; any other command records one action. -/
structure CommandSpec where
  name : String
  aliases : List String := []
  query : Bool := false
  doc : String := ""
  params : List Param := []
deriving Repr

namespace CommandSpec

def allNames (c : CommandSpec) : List String := c.name :: c.aliases

/-- The first parameter without a value, if any. -/
def firstMissing : List Param → Nat → Option Param
  | [], _ => none
  | p :: rest, 0 => if p.default.isNone then some p else firstMissing rest 0
  | _ :: rest, n + 1 => firstMissing rest n

/-- The arguments completed by the defaults, for the command called as `name`. -/
def bind (c : CommandSpec) (name : String) (args : List Value) : Except Fault (List Value) :=
  if c.params.length < args.length then .error (.tooManyArguments name) else
  match firstMissing c.params args.length with
  | some p => .error (.missingArgument name p.name)
  | none => .ok (args ++ (c.params.drop args.length).map fun p => Value.ofOption p.default)

end CommandSpec

/-- Completed arguments, read by position. -/
abbrev Arguments := List Value

namespace Arguments

def arg (a : Arguments) (i : Nat) : Value := a.getD i .null

end Arguments

/-- What a call yields: one action and the new bookkeeping, or a value. -/
inductive Response (S : Type) where
  | acts (shadow : S) (action : Action)
  | answers (value : Value)
deriving Repr

/-- A pause in seconds, which is not negative. -/
def waitAction (seconds : Value) : Except Fault Action := do
  let seconds ← asNumber "seconds" seconds
  if seconds.isNegative then throw (.negativeWait seconds)
  return .wait seconds

end PuzzleWorlds
