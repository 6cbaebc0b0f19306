import PuzzleWorlds.Value.Basic
import PuzzleWorlds.Number.Notation
import PuzzleWorlds.Text.Quoted

/-! The text of a value. `repr` quotes texts and shows the kind of every part; `display` shows a
text as itself and a record as its entries. -/

namespace PuzzleWorlds.Value

def boolText (b : Bool) : String := if b then "True" else "False"

def joinComma (parts : List String) : String := ", ".intercalate parts

mutual

def repr : Value → String
  | null => "None"
  | bool b => boolText b
  | int n => intText n
  | float x => floatText x
  | text s => quoted s
  | list l => "[" ++ joinComma (reprItems l) ++ "]"
  | tuple [a] => "(" ++ repr a ++ ",)"
  | tuple l => "(" ++ joinComma (reprItems l) ++ ")"
  | dict l => "\x7b" ++ joinComma (reprEntries l) ++ "\x7d"
  | record l => "mappingproxy(\x7b" ++ joinComma (reprEntries l) ++ "\x7d)"

def reprItems : List Value → List String
  | [] => []
  | v :: rest => repr v :: reprItems rest

def reprEntries : List (String × Value) → List String
  | [] => []
  | (k, v) :: rest => (quoted k ++ ": " ++ repr v) :: reprEntries rest

end

def display : Value → String
  | text s => s
  | record l => repr (dict l)
  | v => repr v

/-- The first forty characters of the quoted form. -/
def shortRepr (v : Value) : String := String.ofList ((repr v).toList.take 40)

/-- The text of a value as a learner writes it: a whole number without its point. -/
def plainText : Value → String
  | float x => match floatToInt? x with
    | some n => intText n
    | none => floatText x
  | v => v.display

end PuzzleWorlds.Value
