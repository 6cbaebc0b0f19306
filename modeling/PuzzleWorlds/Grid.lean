/-! Whole coordinates on a grid. -/

namespace PuzzleWorlds

/-- The nearest whole number between `low` and `high`; `low` wins when they are crossed. -/
def clamp (value low high : Int) : Int := max low (min high value)

def inGrid (x y width height : Int) : Bool := 0 ≤ x && x < width && 0 ≤ y && y < height

theorem inGrid_iff {x y width height : Int} :
    inGrid x y width height = true ↔ (0 ≤ x ∧ x < width) ∧ 0 ≤ y ∧ y < height := by
  simp only [inGrid, Bool.and_eq_true, decide_eq_true_eq, and_assoc]

theorem clamp_mem {low high : Int} (value : Int) (h : low ≤ high) :
    low ≤ clamp value low high ∧ clamp value low high ≤ high := by
  unfold clamp; omega

theorem clamp_eq_self {value low high : Int} (hl : low ≤ value) (hh : value ≤ high) :
    clamp value low high = value := by
  unfold clamp; omega

end PuzzleWorlds
