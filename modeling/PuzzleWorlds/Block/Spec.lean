import PuzzleWorlds.Domain.Basic
import PuzzleWorlds.Value.Basic

/-! The block types of editors: those that every world has, and those that stand for a command of
one world. -/

namespace PuzzleWorlds

/-- An argument of a block: a plugged-in block, else a field, else the default. -/
structure BlockArg where
  name : String
  default : Value := .null
deriving Repr

/-- A block that stands for a command. A query is a value block, any other a statement. -/
structure BlockSpec where
  type : String
  command : String
  args : List BlockArg := []
  query : Bool := false
deriving Repr

def genericBlockTypes : List String :=
  ["repeat_times", "controls_repeat", "controls_repeat_ext", "for_loop", "for_loop_nested",
    "controls_for", "for_each_enemy", "if_compare", "controls_if", "compare_values",
    "logic_compare", "logic_operation", "logic_negate", "logic_boolean", "math_number", "text",
    "math_add", "math_subtract", "math_multiply", "math_arithmetic", "unit_attribute",
    "variables_get", "variables_set", "math_set_var"]

namespace Domain

def blocks : Domain → List BlockSpec
  | robot =>
    [⟨"move_forward", "move_forward", [], false⟩, ⟨"turn_left", "turn_left", [], false⟩,
      ⟨"turn_right", "turn_right", [], false⟩, ⟨"collect_star", "collect_star", [], false⟩,
      ⟨"wait", "wait", [⟨"SECONDS", 1⟩], false⟩]
  | building =>
    [⟨"build_place_block", "place_block", [], false⟩,
      ⟨"build_remove_block", "remove_block", [], false⟩,
      ⟨"build_set_color", "set_color", [⟨"COLOR", .null⟩], false⟩,
      ⟨"build_move_x", "move_x", [⟨"DISTANCE", 1⟩], false⟩,
      ⟨"build_move_y", "move_y", [⟨"DISTANCE", 1⟩], false⟩,
      ⟨"build_move_z", "move_z", [⟨"DISTANCE", 1⟩], false⟩,
      ⟨"build_goto", "goto", [⟨"X", 0⟩, ⟨"Y", 0⟩, ⟨"Z", 0⟩], false⟩]
  | sorting =>
    [⟨"alchemist_swap", "swap", [⟨"I", .null⟩, ⟨"J", .null⟩], false⟩,
      ⟨"alchemist_get", "get", [⟨"INDEX", .null⟩], true⟩,
      ⟨"alchemist_length", "length", [], true⟩, ⟨"alchemist_view", "view", [], true⟩]
  | combat =>
    [⟨"combat_select_target", "select_target", [⟨"TARGET", .null⟩], false⟩,
      ⟨"combat_attack", "attack", [], false⟩,
      ⟨"combat_distance", "distance_to", [⟨"TARGET", .null⟩], true⟩,
      ⟨"combat_in_range", "in_range", [⟨"TARGET", .null⟩], true⟩,
      ⟨"combat_get_hp", "get_hp", [⟨"TARGET", .null⟩], true⟩,
      ⟨"combat_get_position", "get_position", [⟨"TARGET", .null⟩, ⟨"AXIS", "x"⟩], true⟩]
  | music =>
    [⟨"music_play_note", "play_note", [⟨"NOTE", "C4"⟩], false⟩,
      ⟨"music_rest", "rest", [⟨"BEATS", 1⟩], false⟩]
  | sprite =>
    [⟨"anim_move_right", "move_right", [⟨"PIXELS", 50⟩], false⟩,
      ⟨"anim_move_left", "move_left", [⟨"PIXELS", 50⟩], false⟩,
      ⟨"anim_move_up", "move_up", [⟨"PIXELS", 50⟩], false⟩,
      ⟨"anim_move_down", "move_down", [⟨"PIXELS", 50⟩], false⟩,
      ⟨"anim_jump", "jump", [], false⟩, ⟨"anim_rotate", "rotate", [⟨"DEGREES", 90⟩], false⟩,
      ⟨"anim_scale", "scale", [⟨"PERCENT", 100⟩], false⟩,
      ⟨"anim_say", "say", [⟨"TEXT", ""⟩], false⟩, ⟨"wait", "wait", [⟨"SECONDS", 1⟩], false⟩]
  | pixel =>
    [⟨"pixel_draw", "draw", [], false⟩, ⟨"pixel_move_right", "move_right", [], false⟩,
      ⟨"pixel_move_down", "move_down", [], false⟩,
      ⟨"pixel_set_color", "set_color", [⟨"COLOR", "merah"⟩], false⟩]
  | math => [⟨"math_print", "print_value", [⟨"VALUE", ""⟩], false⟩]

def blockSpec? (d : Domain) (type : String) : Option BlockSpec :=
  d.blocks.find? fun b => b.type == type

def blockTypes (d : Domain) : List String := d.blocks.map (·.type)

end Domain

end PuzzleWorlds
