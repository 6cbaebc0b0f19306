import PuzzleWorlds.Level.Header

/-! Sorting levels: a shelf of potions to put in order, within a number of swaps if one is set. -/

namespace PuzzleWorlds.Sorting

inductive SortOrder where
  | ascending | descending
deriving DecidableEq, Repr

namespace SortOrder

def all : List SortOrder := [ascending, descending]

def name : SortOrder → String
  | ascending => "ascending" | descending => "descending"

def ofName? (s : String) : Option SortOrder := all.find? fun o => o.name == s

/-- Whether `a` may stand before `b`. -/
def allows : SortOrder → Int → Int → Bool
  | ascending, a, b => a ≤ b
  | descending, a, b => b ≤ a

def decode : Decoder SortOrder := Decoder.choice (all.map fun o => (o.name, o))

end SortOrder

/-- Whether each value may stand before the next one. -/
def isSorted (order : SortOrder) : List Int → Bool
  | a :: b :: rest => order.allows a b && isSorted order (b :: rest)
  | _ => true

inductive Goal where
  | sortedWithBudget (order : SortOrder) (maxSwaps : Option Int)
  | free (minActions : Int)
deriving DecidableEq, Repr

structure Level where
  header : LevelHeader
  potions : List Int
  goal : Goal
deriving DecidableEq, Repr

namespace Level

def decodeGoal : Decoder Goal := Decoder.tagged "type" [
  ("sortedWithBudget", fun o => Goal.sortedWithBudget
    <$> o.withDefault "order" .ascending SortOrder.decode
    <*> o.withDefault "max_swaps" none (Decoder.optional (Decoder.int.atLeast 0))),
  ("free", fun o => Goal.free <$> decodeFreeGoal o)]

def decode (o : Fields) : Decoded Level :=
  Level.mk <$> LevelHeader.decode o
    <*> o.required "potions" (Decoder.nonEmpty (Decoder.list Decoder.int))
    <*> o.required "goal" decodeGoal

def dumpGoal : Goal → Value
  | .sortedWithBudget order n =>
    .dict [("type", .text "sortedWithBudget"), ("order", .text order.name),
      ("max_swaps", Value.ofOptionInt n)]
  | .free n => dumpFreeGoal n

def dump (l : Level) : List (String × Value) :=
  l.header.dump ++ [("domain", .text "sorting"), ("potions", .list (l.potions.map .int)),
    ("goal", dumpGoal l.goal)]

end Level

end PuzzleWorlds.Sorting
