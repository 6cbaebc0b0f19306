/-! White space and line ends. Blank are the Unicode spaces, the separators U+001C to U+001F and
the controls from tab to carriage return; a line ends at any of eight characters, or at a carriage
return with its line feed. -/

namespace PuzzleWorlds

def isBlank (c : Char) : Bool :=
  let n := c.toNat
  (9 ≤ n && n ≤ 13) || (28 ≤ n && n ≤ 32) || n == 0x85 || n == 0xA0 || n == 0x1680 ||
  (0x2000 ≤ n && n ≤ 0x200A) || n == 0x2028 || n == 0x2029 || n == 0x202F || n == 0x205F ||
  n == 0x3000

def stripStart (cs : List Char) : List Char := cs.dropWhile isBlank

def stripChars (cs : List Char) : List Char := (stripStart (stripStart cs).reverse).reverse

/-- The text without the blanks at both ends. -/
def strip (s : String) : String := String.ofList (stripChars s.toList)

def isLineEnd (c : Char) : Bool :=
  let n := c.toNat
  (10 ≤ n && n ≤ 13) || (28 ≤ n && n ≤ 30) || n == 0x85 || n == 0x2028 || n == 0x2029

/-- The lines of a text; `line` holds the current line backwards. No line follows a final end. -/
def linesFrom (line : List Char) : List Char → List (List Char)
  | [] => if line.isEmpty then [] else [line.reverse]
  | '\r' :: '\n' :: rest => line.reverse :: linesFrom [] rest
  | c :: rest =>
    if isLineEnd c then line.reverse :: linesFrom [] rest else linesFrom (c :: line) rest

def splitLines (s : String) : List String := (linesFrom [] s.toList).map String.ofList

end PuzzleWorlds
