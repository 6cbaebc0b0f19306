/-! The eight learning worlds. -/

namespace PuzzleWorlds

inductive Domain where
  | robot | building | sorting | combat | music | sprite | pixel | math
deriving DecidableEq, Repr, Inhabited

namespace Domain

def all : List Domain := [robot, building, sorting, combat, music, sprite, pixel, math]

def name : Domain → String
  | robot => "robot" | building => "building" | sorting => "sorting" | combat => "combat"
  | music => "music" | sprite => "sprite" | pixel => "pixel" | math => "math"

def title : Domain → String
  | robot => "Robot Adventure"
  | building => "Block Builder"
  | sorting => "Potion Alchemist"
  | combat => "Tactical Arena"
  | music => "Music Maker"
  | sprite => "Animation Studio"
  | pixel => "Pixel Art"
  | math => "Math Console"

/-- What the world of the domain is called in messages. -/
def worldName : Domain → String
  | robot => "RobotWorld" | building => "BuildingWorld" | sorting => "SortingWorld"
  | combat => "CombatWorld" | music => "MusicWorld" | sprite => "SpriteWorld"
  | pixel => "PixelWorld" | math => "ConsoleWorld"

def ofName? (s : String) : Option Domain := all.find? fun d => d.name == s

theorem mem_all (d : Domain) : d ∈ all := by cases d <;> decide

theorem name_injective {d e : Domain} (h : d.name = e.name) : d = e := by
  revert h; cases d <;> cases e <;> decide

end Domain

end PuzzleWorlds
