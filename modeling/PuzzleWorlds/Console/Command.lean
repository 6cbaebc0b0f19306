import PuzzleWorlds.Command
import PuzzleWorlds.Value.Render

/-! What a program can do at the console. -/

namespace PuzzleWorlds.Console

inductive Command where
  | printValue
deriving DecidableEq, Repr

namespace Command

def all : List Command := [printValue]

def spec : Command → CommandSpec
  | printValue =>
    { name := "print_value", aliases := ["cetak", "mathPrint"]
      doc := "Print a value on the console.", params := [⟨"value", some ""⟩] }

def call (c : Command) (a : Arguments) : Except Fault (Response Unit) := do
  match c with
  | printValue => return .acts () (.print (← asText (a.arg 0)))

end Command

end PuzzleWorlds.Console
