import PuzzleWorlds.Sorting.World
import PuzzleWorlds.Command

/-! What a program can do at the shelf. A copy of the shelf answers its questions before the swaps
are replayed. -/

namespace PuzzleWorlds.Sorting

inductive Command where
  | get | length | swap | view
deriving DecidableEq, Repr

structure Shadow where
  potions : List Int
deriving DecidableEq, Repr

def Shadow.initial (l : Level) : Shadow := ⟨l.potions⟩

/-- A place on the shelf, for the argument called `what`. -/
def Shadow.place (s : Shadow) (what : String) (v : Value) : Except Fault Nat := do
  let i ← asInt what v
  if 0 ≤ i && i < s.potions.length then return i.toNat
  throw (.indexOutside i s.potions.length)

namespace Command

def all : List Command := [get, length, swap, view]

def spec : Command → CommandSpec
  | get =>
    { name := "get", aliases := ["ambil", "alchemistGet"], query := true
      doc := "Value of potion i.", params := [⟨"i", none⟩] }
  | length =>
    { name := "length", aliases := ["panjang", "alchemistLength"], query := true
      doc := "Number of potions." }
  | swap =>
    { name := "swap", aliases := ["tukar", "alchemistSwap"], doc := "Swap potion i with potion j."
      params := [⟨"i", none⟩, ⟨"j", none⟩] }
  | view =>
    { name := "view", aliases := ["lihat", "alchemistView"], query := true
      doc := "Current shelf as a list." }

def call (s : Shadow) (c : Command) (a : Arguments) : Except Fault (Response Shadow) := do
  match c with
  | get => return .answers (.int (s.potions.getD (← s.place "i" (a.arg 0)) 0))
  | length => return .answers (.nat s.potions.length)
  | swap =>
    let i ← s.place "i" (a.arg 0)
    let j ← s.place "j" (a.arg 1)
    return .acts ⟨exchange s.potions i j⟩ (.swap i j)
  | view => return .answers (.list (s.potions.map .int))

end Command

end PuzzleWorlds.Sorting
