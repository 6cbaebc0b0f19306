import PuzzleWorlds.Proofs.BlamedBlocks
import PuzzleWorlds.Service.Basic

/-! Answers to runs. Whatever a run of a workspace comes to is answered with its whole result, but
for one thing: the report on a failure may name a block, and the identifier of a block, which may be
anything, is only answered if it is a text. -/

namespace PuzzleWorlds

/-- The identifier of the block that a result names. -/
def RunResult.blamed (r : RunResult) : Option Value :=
  (r.diagnostic.bind Diagnostic.location).map Location.blockId

namespace Session

variable {d : Domain} {D : Diagnostic → Prop} {s : Session d} {o : Outcome}

end Session

namespace Service

variable {d : Domain}

namespace State

/-- A state right after a session in the robot's domain was created. -/
def opened : State := (({} : State).create ⟨"robot", 0, none⟩ 0).state

end State

end Service

end PuzzleWorlds
