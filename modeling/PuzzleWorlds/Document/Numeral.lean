import PuzzleWorlds.Number.Reading

/-! Numbers and truth values written as text in a document. A whole number may carry leading zeros,
single underscores between its digits and a fraction of zeros; blanks around it are skipped. -/

namespace PuzzleWorlds.Numeral

/-- White space around a numeral; the separators U+001C to U+001F do not count. -/
def isSpace (c : Char) : Bool := isBlank c && !(28 ≤ c.toNat && c.toNat ≤ 31)

def trim (cs : List Char) : List Char :=
  ((cs.dropWhile isSpace).reverse.dropWhile isSpace).reverse

inductive Reading where
  | number (n : Int)
  | tooLong
  | unreadable
deriving DecidableEq, Repr

/-- Digits without a leading zero, after an optional minus. -/
def plain (cs : List Char) : Reading :=
  let (negative, ds) := match cs with
    | '-' :: rest => (true, rest)
    | rest => (false, rest)
  if ds.isEmpty || !ds.all Char.isDigit then .unreadable
  else if ds.head? == some '0' && ds.length > 1 then .unreadable
  else if ds.length > maxNumeralDigits then .tooLong
  else .number (if negative then -(digitsValue ds : Int) else digitsValue ds)

/-- Drops zeros and single underscores before the first other digit; `last` is the zero kept when
nothing or a point follows. -/
def dropZeros : Bool → List Char → Option (List Char)
  | _, [] => some ['0']
  | underscore, c :: rest =>
    if c == '0' then dropZeros false rest
    else if c == '_' then
      if underscore then none else if rest.isEmpty then some ['_'] else dropZeros true rest
    else if c.isDigit then some (c :: rest)
    else if c == '.' && !underscore then some ('0' :: '.' :: rest)
    else none

def withoutLeadingZeros : List Char → Option (List Char)
  | '0' :: rest => dropZeros false rest
  | c :: rest => if c.isDigit || c == '-' then some (c :: rest) else none
  | [] => none

/-- The part before a point that only zeros follow. -/
def withoutZeroFraction (cs : List Char) : List Char :=
  let whole := cs.takeWhile (· != '.')
  match cs.drop whole.length with
  | '.' :: fraction => if fraction.all (· == '0') then whole else cs
  | _ => cs

def hasDoubled (c : Char) : List Char → Bool
  | a :: b :: rest => (a == c && b == c) || hasDoubled c (b :: rest)
  | _ => false

/-- Underscores removed, if each stands alone inside the text. -/
def withoutUnderscores (cs : List Char) : Option (List Char) :=
  if cs.head? == some '_' || cs.getLast? == some '_' || !cs.contains '_' || hasDoubled '_' cs
  then none else some (cs.filter (· != '_'))

def tidy (cs : List Char) : Option (List Char) :=
  let unsigned := match trim cs with
    | '+' :: rest => rest
    | rest => rest
  (withoutLeadingZeros unsigned).map fun digits =>
    let whole := withoutZeroFraction digits
    (withoutUnderscores whole).getD whole

/-- The whole number that a text holds. -/
def readWhole (s : String) : Reading :=
  match plain s.toList with
  | .unreadable => match tidy s.toList with
    | some cs => plain cs
    | none => .unreadable
  | r => r

/-- The number that ASCII text without underscores and blanks holds. -/
def asciiNumber (cs : List Char) : Option Float :=
  if cs.any fun c => c == '_' || isBlank c || c.toNat ≥ 128 then none
  else readFloat? (String.ofList cs)

def readNumber (s : String) : Option Float :=
  match asciiNumber (trim s.toList) with
  | some x => some x
  | none => (withoutUnderscores s.toList).bind asciiNumber

def readTruth (s : String) : Option Bool :=
  let t := String.ofList (s.toList.map Char.toLower)
  if ["0", "f", "n", "no", "off", "false"].contains t then some false
  else if ["1", "t", "y", "yes", "on", "true"].contains t then some true
  else none

end PuzzleWorlds.Numeral
