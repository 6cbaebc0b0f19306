import PuzzleWorlds.Value.Misfit
import PuzzleWorlds.Diagnostic

/-! Why a workspace is no program. -/

namespace PuzzleWorlds

inductive BlockProblem where
  | notWorkspace
  | blocksNotList
  | malformed
  | unknownStatement (type : String)
  | unknownValue (type : String)
  | noCondition
  | nestedTooDeeply
  | pluggedTooDeeply
  | missingArgument (type name : String)
  | missingField (type name : String)
  | unknownArithmetic (op : Value)
  | unknownComparison (op : Value)
  | unknownLogic (op : String)
  | unknownVariable (reference : Value)
  | badVariableName (name : String)
deriving Repr

def BlockProblem.message : BlockProblem → String
  | notWorkspace => "Workspace must be a JSON object or a list of blocks"
  | blocksNotList => "Workspace 'blocks' must be a list"
  | malformed => "Malformed block: expected an object with a 'type'"
  | unknownStatement t => s!"Unknown statement block '{t}'"
  | unknownValue t => s!"Unknown value block '{t}'"
  | noCondition => "'controls_if' has no condition"
  | nestedTooDeeply => "Blocks are nested too deeply"
  | pluggedTooDeeply => "Value blocks are plugged in too deeply"
  | missingArgument t name => s!"Block '{t}' is missing '{name}'"
  | missingField t name => s!"Block '{t}' is missing field '{name}'"
  | unknownArithmetic v => s!"Unsupported arithmetic operator {v.repr}"
  | unknownComparison v => s!"Unsupported comparison {v.repr}"
  | unknownLogic op => s!"Unsupported logic operator {quoted op}"
  | unknownVariable v => s!"Unknown variable reference {v.repr}"
  | badVariableName name => s!"'{name}' is not a valid variable name"

/-- What stops a compilation: a problem at a block, or a part of the wrong kind where the shape of
the workspace is taken for granted. -/
inductive BlockStop where
  | problem (what : BlockProblem) (blockId : Value)
  | misfit (cause : Misfit)
deriving Repr

end PuzzleWorlds
