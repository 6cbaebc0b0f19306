import PuzzleWorlds.Number.Binary
import PuzzleWorlds.Text.Blank
import PuzzleWorlds.Text.DecimalDigit

/-! Numbers read from text. Blanks around a number are skipped, digits of any script count, and a
single underscore may stand between two digits. -/

namespace PuzzleWorlds

/-- The longest integer numeral that is read. -/
def maxNumeralDigits : Nat := 4300

/-- Writes the digits of every script with the ten ASCII ones. -/
def asciiDigits (cs : List Char) : List Char :=
  cs.map fun c => match digitValue? c with
    | some d => Char.ofNat (48 + d)
    | none => c

/-- Digits with single underscores between them, and what follows. -/
def takeDigits : List Char → List Char × List Char
  | '_' :: c :: rest =>
    if c.isDigit then let (ds, r) := takeDigits rest; (c :: ds, r) else ([], '_' :: c :: rest)
  | c :: rest => if c.isDigit then let (ds, r) := takeDigits rest; (c :: ds, r) else ([], c :: rest)
  | [] => ([], [])

/-- Digits that do not begin with an underscore. -/
def takeNumeral : List Char → List Char × List Char
  | '_' :: rest => ([], '_' :: rest)
  | cs => takeDigits cs

def digitsValue (ds : List Char) : Nat := ds.foldl (fun n d => 10 * n + (d.toNat - 48)) 0

def takeSign : List Char → Bool × List Char
  | '-' :: rest => (true, rest)
  | '+' :: rest => (false, rest)
  | cs => (false, cs)

/-- A whole number: a sign and digits, with blanks around them. -/
def readInt? (s : String) : Option Int :=
  let (negative, cs) := takeSign (asciiDigits (stripChars s.toList))
  match takeNumeral cs with
  | (ds@(_ :: _), []) =>
    if ds.length > maxNumeralDigits then none
    else some (if negative then -(digitsValue ds : Int) else digitsValue ds)
  | _ => none

/-- The float nearest to `± digits * 10 ^ exp`. An exponent far out of range is cut off first, as
such a number is zero or infinite whatever its digits are. -/
def decimalFloat (negative : Bool) (digits : Nat) (exp : Int) : Float :=
  let magnitude : Float :=
    if digits == 0 then 0.0
    else
      let size : Int := (digits.log2 : Int) * 30103 / 100000 + exp
      if size > 400 then 1.0 / 0.0
      else if size < -400 then 0.0
      else (Binary.nearest? false (digits * tenTo exp) (tenTo (-exp))).getD (1.0 / 0.0)
  if negative then -magnitude else magnitude

/-- The exponent part, if one begins here. -/
def takeExponent (cs : List Char) : Option Int × List Char :=
  match cs with
  | e :: rest =>
    if e == 'e' || e == 'E' then
      let (negative, r) := takeSign rest
      match takeNumeral r with
      | ([], _) => (none, cs)
      | (ds, r') => (some (if negative then -(digitsValue ds : Int) else digitsValue ds), r')
    else (none, cs)
  | [] => (none, cs)

/-- A decimal number: digits with a point among or around them, and an exponent. -/
def takeDecimal (negative : Bool) (cs : List Char) : Option (Float × List Char) :=
  let (whole, afterWhole) := takeNumeral cs
  let (fraction, rest) := match afterWhole with
    | '.' :: r => takeNumeral r
    | r => ([], r)
  if whole.isEmpty && fraction.isEmpty then none else
  let (e, rest') := takeExponent rest
  let exp : Int := e.getD 0 - fraction.length
  some (decimalFloat negative (digitsValue (whole ++ fraction)) exp, rest')

def namedFloat? (negative : Bool) (cs : List Char) : Option Float :=
  let name := String.ofList (cs.map Char.toLower)
  if name == "nan" then some (0.0 / 0.0)
  else if name == "inf" || name == "infinity" then
    some (if negative then -1.0 / 0.0 else 1.0 / 0.0)
  else none

/-- A number: a decimal one, or the name of infinity or of no number. -/
def readFloat? (s : String) : Option Float :=
  let (negative, cs) := takeSign (asciiDigits (stripChars s.toList))
  match takeDecimal negative cs with
  | some (x, []) => some x
  | some _ => none
  | none => namedFloat? negative cs

end PuzzleWorlds
