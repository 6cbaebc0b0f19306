import PuzzleWorlds.Proofs.FloatProduct
import PuzzleWorlds.Proofs.LoadedLevel
import PuzzleWorlds.Proofs.PlayedOut
import PuzzleWorlds.Proofs.RunningSums

/-! Which recorded traces can be replayed. Registries let numbers of any size through, and floats
that are not finite. The worlds add such numbers up, and a replay waits for as long as they say;
apart from that nothing stands in its way: a valid level has a world, the world takes every
recorded action, and the pauses of the tables are short. -/

namespace PuzzleWorlds

theorem Pixel.World.exists_initial {l : Level} (valid : l.findings.valid = true) :
    ∃ w, initial l = .ok w := by
  obtain ⟨c, paint⟩ := Level.of_valid valid
  have coded : colorCode (.text l.defaultColor) = .ok c := colorCode_eq_ok.mpr paint
  refine ⟨{ size := l.size, color := .text c }, ?_⟩
  rw [initial, coded]
  rfl

namespace Domain

variable {d : Domain}

theorem exists_initialWorld {l : d.Level} (valid : (d.validate l).valid = true) :
    ∃ w, d.initialWorld l = .ok w := by
  cases d with
  | pixel =>
    have own := ownFindings_valid valid
    exact Pixel.World.exists_initial own
  | _ => exact ⟨_, rfl⟩

end Domain

end PuzzleWorlds
