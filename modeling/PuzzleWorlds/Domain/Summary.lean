import PuzzleWorlds.Block.Spec
import PuzzleWorlds.Domain.Registry
import PuzzleWorlds.Domain.World
import PuzzleWorlds.Script.Prelude

/-! What there is in a domain, as a document: its commands, its blocks, its actions and how long the
replay pauses after each. -/

namespace PuzzleWorlds

def sortTexts (l : List String) : List String := l.mergeSort fun a b => a ≤ b

def Value.texts (l : List String) : Value := .list (l.map .text)

def CommandSpec.toDict (c : CommandSpec) : Value :=
  .dict [("name", .text c.name), ("aliases", .texts c.aliases), ("query", .bool c.query),
    ("doc", .text c.doc)]

def BlockSpec.toDict (b : BlockSpec) : Value :=
  .dict [("type", .text b.type), ("primitive", .text b.command), ("query", .bool b.query),
    ("args", .list (b.args.map fun a => .list [.text a.name, a.default]))]

namespace Domain

def actionNames (kinds : List ActionKind) : List String := sortTexts (kinds.map ActionKind.name)

def summary (d : Domain) : Value :=
  .dict [("name", .text d.name), ("title", .text d.title),
    ("partial_replay", .bool d.partialReplay),
    ("primitives", .list (d.commandSpecs.map CommandSpec.toDict)),
    ("names", .texts (sortTexts d.commandNames)), ("helpers", .texts (sortTexts d.helperNames)),
    ("actions", .texts (actionNames d.handledKinds)),
    ("logged", Value.ofOption (d.loggedKinds.map fun ks => .texts (actionNames ks))),
    ("pacing", .dict (d.pauses.map fun p => (p.1.name, .float p.2))),
    ("blocks", .list (d.blocks.map BlockSpec.toDict))]

end Domain

end PuzzleWorlds
