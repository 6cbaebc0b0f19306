import PuzzleWorlds.Domain.Level

/-! The level packs that come with the worlds. -/

namespace PuzzleWorlds

def Robot.pack : List Robot.Level := [
  { header :=
      { id := .number 1, name := "First Steps", description := "Move the robot to the flag."
        hints := ["Use move_forward four times"], allowedBlocks := ["move_forward"] }
    width := 5, height := 3, robot := ⟨0, 1, .east⟩, goal := .position 4 1 true },
  { header :=
      { id := .number 2, name := "Turning Corners", description := "Reach the top-right corner."
        hints := ["Go right first, then turn left and go up"]
        allowedBlocks := ["move_forward", "turn_left", "turn_right"] }
    width := 4, height := 4, robot := ⟨0, 3, .east⟩, goal := .position 3 0 true },
  { header :=
      { id := .number 3, name := "Star Collector", difficulty := .medium
        description := "Collect every star on the way to the goal."
        hints := ["Step onto a star, then use collect_star"]
        allowedBlocks := ["move_forward", "turn_left", "turn_right", "collect_star"] }
    width := 5, height := 3, robot := ⟨0, 1, .east⟩, stars := [(1, 1), (2, 1), (3, 1)]
    goal := .position 4 1 true },
  { header :=
      { id := .number 4, name := "Loop Road", difficulty := .medium
        description := "A long road: let a loop do the walking."
        hints := ["repeat_times runs the blocks inside it again and again"]
        allowedBlocks := ["move_forward", "collect_star", "repeat_times"] }
    width := 8, height := 1, robot := ⟨0, 0, .east⟩, stars := [(7, 0)]
    goal := .position 7 0 true }]

def Building.pack : List Building.Level := [
  { header :=
      { id := .number 1, name := "First Block", description := "Place one block anywhere."
        hints := ["Use place_block"] }
    goal := .structureMatch { minBlocks := some 1 } },
  { header :=
      { id := .number 2, name := "Red Tower", description := "Stack three red blocks."
        hints := ["Place a block, then move_y(1)"] }
    goal := .structureMatch
      { matchColors := true
        target := [⟨⟨0, 0, 0⟩, some "#e74c3c"⟩, ⟨⟨0, 1, 0⟩, some "#e74c3c"⟩,
          ⟨⟨0, 2, 0⟩, some "#e74c3c"⟩] } },
  { header :=
      { id := .number 3, name := "Green Wall", difficulty := .medium
        description := "Build a row of four green blocks."
        hints := ["set_color('hijau') first", "A loop saves blocks"] }
    availableColors := ["#e74c3c", "#2ecc71", "#3498db"]
    goal := .structureMatch
      { matchColors := true
        target := [⟨⟨0, 0, 0⟩, some "#2ecc71"⟩, ⟨⟨1, 0, 0⟩, some "#2ecc71"⟩,
          ⟨⟨2, 0, 0⟩, some "#2ecc71"⟩, ⟨⟨3, 0, 0⟩, some "#2ecc71"⟩] } }]

def Sorting.pack : List Sorting.Level := [
  { header :=
      { id := .number 1, name := "Three Potions"
        description := "Sort the potions from small to large."
        hints := ["swap(0, 1) swaps the first two potions"] }
    potions := [3, 1, 2], goal := .sortedWithBudget .ascending (some 5) },
  { header :=
      { id := .number 2, name := "Four Potions", difficulty := .medium
        description := "Sort four potions."
        hints := ["Find the smallest potion and move it to the front"] }
    potions := [4, 2, 3, 1], goal := .sortedWithBudget .ascending (some 8) },
  { header :=
      { id := .number 3, name := "Bubble Sort", difficulty := .hard
        description := "Write a bubble sort with loops and comparisons."
        hints := ["Compare neighbours with get(i) and get(i + 1)",
          "Swap them when they are in the wrong order", "Repeat the pass for every potion"]
        allowedBlocks := ["alchemist_swap", "alchemist_get", "alchemist_length", "for_loop",
          "for_loop_nested", "if_compare", "compare_values"] }
    potions := [5, 3, 1, 4, 2], goal := .sortedWithBudget .ascending none }]

/-- An enemy with a reach of one cell. -/
def Combat.foe (id name : String) (x y hp attack : Int) : Combat.UnitConfig :=
  { id, name, x, y, hp, attack, range := 1 }

def Combat.skeleton (id : String) (x y : Int) : Combat.UnitConfig :=
  { id, name := "Skeleton", x, y, hp := 40, attack := 10, range := 2 }

def Combat.pack : List Combat.Level := [
  { header :=
      { id := .number 1, name := "Closest Goblin"
        description := "Select the goblin closest to the hero."
        hints := ["Use distance_to() to compare distances"]
        allowedBlocks := ["combat_select_target", "combat_attack", "combat_distance",
          "for_each_enemy", "if_compare", "compare_values"] }
    enemies := [Combat.foe "goblin1" "Goblin" 6 4 30 5, Combat.foe "goblin2" "Goblin" 4 2 30 5]
    goal := .targetSelection (some "goblin2") },
  { header :=
      { id := .number 2, name := "Weakest Orc", difficulty := .medium
        description := "Select the orc with the least hit points."
        hints := ["get_hp() tells you how strong an enemy is"]
        allowedBlocks := ["combat_select_target", "combat_attack", "combat_get_hp",
          "for_each_enemy", "if_compare", "compare_values"] }
    enemies := [Combat.foe "orc1" "Orc" 5 3 80 15, Combat.foe "orc2" "Orc" 5 5 20 15,
      Combat.foe "orc3" "Orc" 3 1 60 15]
    goal := .targetSelection (some "orc2") },
  { header :=
      { id := .number 3, name := "Skeleton Range", difficulty := .hard
        description := "Your reach is short: pick the skeleton you can actually hit."
        hints := ["in_range() checks the hero's attack range"]
        allowedBlocks := ["combat_select_target", "combat_attack", "combat_distance",
          "combat_in_range", "for_each_enemy", "if_compare", "compare_values"] }
    hero := { Combat.standardHero with range := 2 }
    enemies := [Combat.skeleton "skeleton1" 6 4, Combat.skeleton "skeleton2" 3 5,
      Combat.skeleton "skeleton3" 2 0]
    goal := .targetSelection (some "skeleton2") }]

def Music.pack : List Music.Level := [
  { header :=
      { id := .number 1, name := "First Note", description := "Play the note C."
        hints := ["play_note('C4') or do()"] }
    goal := .notes ["C4"] (some 1) },
  { header :=
      { id := .number 2, name := "Do Re Mi", description := "Play C, D and E in order."
        hints := ["Order matters"] }
    goal := .sequence ["C4", "D4", "E4"] },
  { header :=
      { id := .number 3, name := "Full Scale", difficulty := .medium
        description := "Play at least eight notes."
        hints := ["do re mi fa sol la si do_tinggi"] }
    goal := .notes [] (some 8) },
  { header :=
      { id := .number 4, name := "Rhythm Loop", difficulty := .medium
        description := "Play a note at least three times with a loop."
        hints := ["Put play_note inside repeat_times"] }
    goal := .repetition 3 none },
  { header :=
      { id := .number 5, name := "Free Jam", difficulty := .free
        description := "Compose your own tune." }
    goal := .free 5 }]

def Sprite.figureAt (id emoji : String) (x y : Float) : Sprite.Figure :=
  { id, emoji, x := .float x, y := .float y }

def Sprite.pack : List Sprite.Level := [
  { header :=
      { id := .number 1, name := "Walk the Cat"
        description := "Move the cat to the right side of the stage."
        hints := ["move_right moves 50 pixels at a time"] }
    lead := Sprite.figureAt "cat" "🐱" 50 150
    goal := .position (some 400) none (.float 50) },
  { header :=
      { id := .number 2, name := "Fly Up", description := "Help the bird fly to the top."
        hints := ["move_up makes y smaller"] }
    lead := Sprite.figureAt "bird" "🐦" 250 280
    goal := .position none (some 50) (.float 50) },
  { header :=
      { id := .number 3, name := "Jump!", description := "Make the frog jump."
        hints := ["Use jump"] }
    lead := Sprite.figureAt "frog" "🐸" 200 200
    goal := .action "jump" },
  { header :=
      { id := .number 4, name := "Zigzag", difficulty := .medium
        description := "Zigzag across the stage."
        hints := ["Combine move_right with move_up and move_down"] }
    lead := Sprite.figureAt "bee" "🐝" 50 200
    goal := .position (some 400) none (.float 100) },
  { header :=
      { id := .number 5, name := "Spin Around", difficulty := .medium
        description := "Turn all the way around."
        hints := ["rotate(90) four times is a full turn"] }
    lead := Sprite.figureAt "star" "⭐" 200 200
    goal := .rotation (.float 360) },
  { header :=
      { id := .number 6, name := "Say Hello", description := "Let the dog say something."
        hints := ["Use say"] }
    lead := Sprite.figureAt "dog" "🐶" 200 200
    goal := .speech none },
  { header :=
      { id := .number 7, name := "Free Stage", difficulty := .free
        description := "Animate anything you like." }
    lead := Sprite.figureAt "cat" "🐱" 200 200
    goal := .free 1 }]

def Pixel.pack : List Pixel.Level := [
  { header :=
      { id := .number 1, name := "Horizontal Line", description := "Draw five pixels in a row."
        hints := ["draw, then move_right"] }
    goal := .pixels [(0, 0), (1, 0), (2, 0), (3, 0), (4, 0)] none },
  { header :=
      { id := .number 2, name := "Vertical Line", description := "Draw five pixels in a column."
        hints := ["draw, then move_down"] }
    goal := .pixels [(0, 0), (0, 1), (0, 2), (0, 3), (0, 4)] none },
  { header :=
      { id := .number 3, name := "Letter L", difficulty := .medium
        description := "Draw the letter L.", hints := ["Go down first, then right"] }
    goal := .pixels [(0, 0), (0, 1), (0, 2), (0, 3), (1, 3), (2, 3)] none },
  { header :=
      { id := .number 4, name := "Little Box", difficulty := .hard
        description := "Fill a 3x3 square."
        hints := ["The cursor cannot move left or up, so plan the path"] }
    goal := .pixels
      [(0, 0), (1, 0), (2, 0), (0, 1), (1, 1), (2, 1), (0, 2), (1, 2), (2, 2)] none }]

def Console.pack : List Console.Level := [
  { header :=
      { id := .number 1, name := "Addition", description := "Print 5 + 3."
        hints := ["print(5 + 3)"] }
    goal := .output ["8"] },
  { header :=
      { id := .number 2, name := "Subtraction", description := "Print 10 - 4."
        hints := ["print(10 - 4)"] }
    goal := .output ["6"] },
  { header :=
      { id := .number 3, name := "Multiplication", description := "Print 6 x 7."
        hints := ["print(6 * 7)"] }
    goal := .output ["42"] },
  { header :=
      { id := .number 4, name := "Variables", difficulty := .medium
        description := "Store 10 in x and print it.", hints := ["x = 10", "print(x)"] }
    goal := .output ["10"] }]

/-- The level pack of a domain. -/
def Domain.pack : (d : Domain) → List d.Level
  | .robot => Robot.pack
  | .building => Building.pack
  | .sorting => Sorting.pack
  | .combat => Combat.pack
  | .music => Music.pack
  | .sprite => Sprite.pack
  | .pixel => Pixel.pack
  | .math => Console.pack

end PuzzleWorlds
