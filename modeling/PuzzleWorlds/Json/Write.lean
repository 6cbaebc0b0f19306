import PuzzleWorlds.Value.Misfit

/-! Values as JSON text in ASCII. Infinite floats and no number have names of their own; tuples
are arrays. -/

namespace PuzzleWorlds.Json

def unicodeEscape (n : Nat) : List Char := '\\' :: 'u' :: hexDigits 4 n

def escapeChar (c : Char) : List Char :=
  if c == '"' then ['\\', '"']
  else if c == '\\' then ['\\', '\\']
  else if c == '\n' then ['\\', 'n']
  else if c == '\r' then ['\\', 'r']
  else if c == '\t' then ['\\', 't']
  else if c == Char.ofNat 8 then ['\\', 'b']
  else if c == Char.ofNat 12 then ['\\', 'f']
  else if 32 ≤ c.toNat && c.toNat ≤ 126 then [c]
  else if c.toNat < 0x10000 then unicodeEscape c.toNat
  else
    let n := c.toNat - 0x10000
    unicodeEscape (0xD800 + n / 0x400) ++ unicodeEscape (0xDC00 + n % 0x400)

def textLiteral (s : String) : String :=
  String.ofList ('"' :: s.toList.flatMap escapeChar ++ ['"'])

def floatLiteral (x : Float) : String :=
  if x.isFinite then floatText x
  else if x.isNaN then "NaN" else if x > 0 then "Infinity" else "-Infinity"

mutual

def write : Value → String
  | .null => "null"
  | .bool b => if b then "true" else "false"
  | .int n => intText n
  | .float x => floatLiteral x
  | .text s => textLiteral s
  | .list l | .tuple l => "[" ++ ", ".intercalate (writeItems l) ++ "]"
  | .dict l | .record l => "\x7b" ++ ", ".intercalate (writeEntries l) ++ "\x7d"

def writeItems : List Value → List String
  | [] => []
  | v :: rest => write v :: writeItems rest

def writeEntries : List (String × Value) → List String
  | [] => []
  | (k, v) :: rest => (textLiteral k ++ ": " ++ write v) :: writeEntries rest

end

mutual

/-- What keeps a value from having a JSON text: a whole number with too many digits, or a record,
which has no JSON form. Of several the first one counts. -/
def obstacle? : Value → Option Misfit
  | .int n => if n.natAbs < tenTo maxNumeralDigits then none else some .unwritable
  | .record _ => some (.notSerializable "mappingproxy")
  | .list l | .tuple l => obstacleIn? l
  | .dict l => obstacleAmong? l
  | _ => none

def obstacleIn? : List Value → Option Misfit
  | [] => none
  | v :: rest => (obstacle? v).orElse fun _ => obstacleIn? rest

def obstacleAmong? : List (String × Value) → Option Misfit
  | [] => none
  | (_, v) :: rest => (obstacle? v).orElse fun _ => obstacleAmong? rest

end

/-- The JSON text of a value, if it has one. -/
def text (v : Value) : Except Misfit String :=
  match obstacle? v with
  | some m => .error m
  | none => .ok (write v)

end PuzzleWorlds.Json
