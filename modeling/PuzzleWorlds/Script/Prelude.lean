import PuzzleWorlds.Domain.Registry
import PuzzleWorlds.Event

/-! What is put before a learner's script when it is sent away to run: functions that report each
command as an event, and what a world offers beside its commands. -/

namespace PuzzleWorlds.Script

def joinLines (lines : List String) : String := "\n".intercalate lines

/-- The function that prints an event. -/
def emitHelper : String :=
  "import builtins as _builtins\nimport json as _json\n\n\ndef _emit(name, args):\n" ++
    "    _builtins.print(\"" ++ Event.marker ++
    " \" + _json.dumps(\x7b\"name\": name, \"args\": list(args)\x7d), flush=True)\n"

/-- A function that reports a command, under all names of the command. -/
def commandHelper (c : CommandSpec) : String :=
  let function := s!"\ndef {c.name}(*args):\n    _emit({quoted c.name}, args)\n"
  if c.aliases.isEmpty then function
  else function ++ " = ".intercalate c.aliases ++ s!" = {c.name}\n"

/-- The functions of all commands that act. -/
def helpers (d : Domain) : String :=
  emitHelper ++ String.join ((d.commandSpecs.filter fun c => !c.query).map commandHelper)

end Script

namespace Sorting

/-- The shelf as a list that follows every swap. -/
def prelude (l : Level) : String := Script.joinLines [
  s!"ramuan = potions = {(Value.list (l.potions.map .int)).repr}",
  "",
  "def swap(i, j):",
  "    if not (0 <= i < len(potions) and 0 <= j < len(potions)):",
  "        raise IndexError(f\"potion index out of range: \x7bi\x7d, \x7bj\x7d\")",
  "    potions[i], potions[j] = potions[j], potions[i]",
  "    _emit(\"swap\", (i, j))",
  "",
  "def get(i):",
  "    return potions[i]",
  "",
  "def length():",
  "    return len(potions)",
  "",
  "def view():",
  "    return list(potions)",
  "",
  "tukar = alchemistSwap = swap",
  "ambil = alchemistGet = get",
  "panjang = alchemistLength = length",
  "lihat = alchemistView = view"]

end Sorting

namespace Combat

def unitLiteral (kind : String) (u : UnitConfig) : String :=
  s!"{kind}({quoted u.id}, {quoted u.name}, {intText u.x}, {intText u.y}, {intText u.hp}, " ++
    s!"{intText u.attack}, {intText u.range})"

/-- The fighters as objects, and commands that take them. -/
def prelude (l : Level) : String := Script.joinLines [
  "import math as _math",
  "",
  "class Unit:",
  "    def __init__(self, id, name, x, y, hp, attack, attack_range):",
  "        self.id = id",
  "        self.name = name",
  "        self.x = x",
  "        self.y = y",
  "        self.hp = hp",
  "        self.attack = attack",
  "        self.range = attack_range",
  "",
  "    def jarak_ke(self, other):",
  "        return _math.sqrt((self.x - other.x) ** 2 + (self.y - other.y) ** 2)",
  "",
  "    def dalam_jangkauan(self, other):",
  "        return self.jarak_ke(other) <= self.range",
  "",
  "    distance_to = jarak_ke",
  "    in_range = dalam_jangkauan",
  "",
  "    def __repr__(self):",
  "        return f\"\x7bself.name\x7d(\x7bself.id\x7d, hp=\x7bself.hp\x7d)\"",
  "",
  "class Pahlawan(Unit):",
  "    def serang(self, target):",
  "        attack(target)",
  "        return _unit_id(target)",
  "",
  "    attack_target = serang",
  "",
  "class Musuh(Unit):",
  "    pass",
  "",
  "Hero = Pahlawan",
  "Enemy = Musuh",
  "",
  "pahlawan = hero = " ++ unitLiteral "Pahlawan" l.hero,
  "daftar_musuh = enemies = [",
  ",\n".intercalate (l.enemies.map fun e => "    " ++ unitLiteral "Musuh" e),
  "]",
  "",
  "def _unit_id(target):",
  "    return target.id if isinstance(target, Unit) else target",
  "",
  "def _unit(target):",
  "    for unit in daftar_musuh:",
  "        if unit.id == _unit_id(target):",
  "            return unit",
  "    raise ValueError(f\"no enemy called \x7btarget!r\x7d\")",
  "",
  "def select_target(target):",
  "    _emit(\"select_target\", (_unit_id(target),))",
  "    return target",
  "",
  "def attack(target=None):",
  "    _emit(\"attack\", () if target is None else (_unit_id(target),))",
  "",
  "def distance_to(target):",
  "    return pahlawan.jarak_ke(_unit(target))",
  "",
  "def in_range(target):",
  "    return pahlawan.dalam_jangkauan(_unit(target))",
  "",
  "def get_hp(target):",
  "    return _unit(target).hp",
  "",
  "def get_position(target, axis='x'):",
  "    return getattr(_unit(target), axis)",
  "",
  "pilih_target = combatSelectTarget = select_target",
  "serang_target = attack_target = combatAttack = attack",
  "jarak_ke = combatDistance = distance_to",
  "dalam_jangkauan = combatInRange = in_range",
  "ambil_hp = combatGetHp = get_hp",
  "ambil_posisi = combatGetPosition = get_position"]

end Combat

namespace Domain

/-- One function for each name that calls a command with a text. -/
def shortcuts (command : String) (names : List (String × String)) : String :=
  Script.joinLines (names.map fun (name, argument) => s!"def {name}(): {command}(\"{argument}\")")

/-- Names that the prelude defines beside the commands and that count as commands. -/
def helperNames : Domain → List String
  | building => Building.namedColors.map (·.1)
  | combat => ["serang"]
  | music => Music.solfege.map (·.1)
  | pixel => Pixel.paints.map (·.1)
  | math => ["print"]
  | robot | sorting | sprite => []

/-- What a world offers to scripts beside its commands, whatever its level. -/
def sharedPrelude : Domain → String
  | building => shortcuts "set_color" (building.helperNames.map fun n => (n, n))
  | pixel => shortcuts "set_color" (pixel.helperNames.map fun n => (n, n))
  | music => shortcuts "play_note" Music.solfege
  | math => Script.joinLines [
      "def print(*values, sep=\" \", end=\"\\n\", file=None, flush=False):",
      "    _emit(\"print_value\", (sep.join(str(v) for v in values),))"]
  | robot | sorting | combat | sprite => ""

/-- What a level offers to scripts; shelves and arenas show what is in them. -/
def prelude : {d : Domain} → d.Level → String
  | sorting, l => Sorting.prelude l
  | combat, l => Combat.prelude l
  | d, _ => d.sharedPrelude

end Domain

end PuzzleWorlds
