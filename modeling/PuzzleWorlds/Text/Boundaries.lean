/-! Sets of code points given by their boundaries: at each boundary membership changes, and below
the first one nothing belongs to the set. -/

namespace PuzzleWorlds

/-- Whether an odd number of boundaries lies at or below `n`. -/
def insideBoundaries (boundaries : Array Nat) (n : Nat) : Bool :=
  boundaries.foldl (fun inside b => if b ≤ n then !inside else inside) false

end PuzzleWorlds
