import PuzzleWorlds.Value.Misfit

/-! Why a program stops: a primitive refuses its arguments, an expression has no value, a budget
is used up, or a value does not fit its use. -/

namespace PuzzleWorlds

inductive FaultKind where
  | invalidArgument
  | indexOutOfRange
  | unknownTarget
  | program
  | budgetExceeded
  | misfit (kind : MisfitKind)
deriving DecidableEq, Repr

inductive Fault where
  | notWhole (what : String) (got : Value)
  | notNumber (what : String) (got : Value)
  | tooManyArguments (name : String)
  | missingArgument (name argument : String)
  | negativeWait (seconds : Value)
  | unknownBlockColor (got : Value) (known : List String)
  | unknownPaint (got : Value) (known : List String)
  | unknownNote (got : Value) (known : List String)
  | emptyRest (beats : Value)
  | emptySize (percent : Value)
  | noTargetSelected
  | unknownAxis (axis : String)
  | notAQuery (name : String)
  | indexOutside (index : Int) (size : Nat)
  | unknownTarget (got : Value)
  | unknownCommand (name world : String)
  | unknownCollection (name world : String)
  | unboundVariable (name : String)
  | unknownOperator (symbol : String)
  | unknownComparison (symbol : String)
  | textOperand (symbol : String) (left right : Value)
  | tooLargeFor (symbol : String) (left right : Value)
  | notComputable (symbol : String) (left right : Value)
  | notComparable (symbol : String) (left right : Value)
  | zeroDivision
  | numberTooBig
  | textTooLong
  | noField (target : Value) (field : String)
  | notEvaluable (kind : String)
  | zeroLoopStep
  | tooManyActions (limit : Int)
  | tooManySteps (limit : Int)
  | outOfTime
  | misfit (cause : Misfit)
deriving Repr

namespace Fault

def kind : Fault → FaultKind
  | indexOutside .. => .indexOutOfRange
  | unknownTarget _ => .unknownTarget
  | unknownCommand .. | unknownCollection .. | unboundVariable _ | unknownOperator _
  | unknownComparison _ | textOperand .. | tooLargeFor .. | notComputable .. | notComparable ..
  | zeroDivision | numberTooBig | textTooLong | noField .. | notEvaluable _
  | zeroLoopStep => .program
  | tooManyActions _ | tooManySteps _ | outOfTime => .budgetExceeded
  | misfit m => .misfit m.kind
  | _ => .invalidArgument

def message : Fault → String
  | notWhole what v => s!"{what} must be a whole number, got {v.repr}"
  | notNumber what v => s!"{what} must be a number, got {v.repr}"
  | tooManyArguments name => s!"{name}(): too many positional arguments"
  | missingArgument name a => s!"{name}(): missing a required argument: '{a}'"
  | negativeWait v => s!"Cannot wait a negative time ({v.display})"
  | unknownBlockColor v known =>
    s!"Unknown color {v.repr}; use #rrggbb or one of {Value.joinComma known}"
  | unknownPaint v known => s!"Unknown color {v.repr}; use one of {Value.joinComma known}"
  | unknownNote v known => s!"Unknown note {v.repr}; use one of {Value.joinComma known}"
  | emptyRest v => s!"A rest must last at least part of a beat, got {v.display}"
  | emptySize v => s!"Size must be more than 0%, got {v.display}"
  | noTargetSelected => "Select a target before attacking"
  | unknownAxis a => s!"axis must be 'x' or 'y', got {quoted a}"
  | notAQuery name => s!"'{name}' does not give back a value"
  | indexOutside i size =>
    s!"Index {intText i} is outside the shelf (0..{intText ((size : Int) - 1)})"
  | unknownTarget v => s!"There is no enemy called {v.repr}"
  | unknownCommand name world => s!"'{name}' is not a command in the {world} world"
  | unknownCollection name world => s!"There is no list called '{name}' in the {world} world"
  | unboundVariable name => s!"Variable '{name}' has no value yet"
  | unknownOperator s => s!"Unknown operator '{s}'"
  | unknownComparison s => s!"Unknown comparison '{s}'"
  | textOperand op a b => s!"Cannot compute {a.shortRepr} {op} {b.shortRepr}"
  | tooLargeFor op a b => s!"Cannot compute {a.shortRepr} {op} {b.shortRepr}: the number is too big"
  | notComputable op a b => s!"Cannot compute {a.repr} {op} {b.repr}"
  | notComparable op a b => s!"Cannot compare {a.repr} {op} {b.repr}"
  | zeroDivision => "Cannot divide by zero"
  | numberTooBig => "That number is too big"
  | textTooLong => "That text would be too long"
  | noField v name => s!"{v.repr} has no '{name}'"
  | notEvaluable k => s!"Cannot evaluate {k}"
  | zeroLoopStep => "Loop step cannot be 0"
  | tooManyActions n => s!"Program produced more than {intText n} actions"
  | tooManySteps n => s!"Program ran for more than {intText n} steps"
  | outOfTime => "Program ran out of time"
  | misfit m => m.message

/-- Whether the engine itself raised the fault, rather than a value that does not fit its use. -/
def isOwn (f : Fault) : Bool :=
  match f with
  | misfit _ => false
  | _ => true

/-- Whether the message can be written. If not, telling the fault fails for that reason. -/
def writable : Fault → Bool
  | notWhole _ v | notNumber _ v | negativeWait v | unknownBlockColor v _ | unknownPaint v _
  | unknownNote v _ | emptyRest v | emptySize v | unknownTarget v | noField v _ => v.writable
  | textOperand _ a b | tooLargeFor _ a b | notComputable _ a b | notComparable _ a b =>
    a.writable && b.writable
  | indexOutside n _ | tooManyActions n | tooManySteps n => (Value.int n).writable
  | misfit .unwritable => false
  | _ => true

end Fault

/-- The value as a whole number, for the argument called `what`. -/
def asInt (what : String) (v : Value) : Except Fault Int :=
  match v.asInt? with
  | some n => .ok n
  | none => .error (.notWhole what v)

/-- The value as a number, for the argument called `what`. -/
def asNumber (what : String) (v : Value) : Except Fault Value :=
  match v.asNumber? with
  | some n => .ok n
  | none => .error (.notNumber what v)

/-- The text of a value, unless it cannot be written. -/
def asText (v : Value) : Except Fault String :=
  if v.writable then .ok v.plainText else .error (.misfit .unwritable)

end PuzzleWorlds
