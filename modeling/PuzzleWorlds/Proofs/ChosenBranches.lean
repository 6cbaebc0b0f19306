import PuzzleWorlds.Proofs.CompiledBranches
import PuzzleWorlds.Proofs.EnoughSteps

/-! Which branch runs. The conditions of a branching block are evaluated one after another, up to
the first that holds; what this one guards is run, and nothing else. Where none holds, the other
case is run; where one fails, nothing. -/

namespace PuzzleWorlds

variable {d : Domain} {m n : Machine d}

namespace Expr

end Expr

section

variable {x : Except Fault Unit} {ts : List Task} {condition : Expr} {body otherwise : List Stmt}
  {id : Value}

variable {e : Effect d}

end

namespace Block

open BlockEntries

variable {arms : List (Expr × List Stmt)} {otherwise : List Stmt} {id : Value} {e : Effect d}

end Block

end PuzzleWorlds
