import PuzzleWorlds.Value.Basic
import PuzzleWorlds.Number.Notation
import PuzzleWorlds.Number.Reading

/-! JSON text as values. A number without a point or an exponent is an integer of any size;
infinite floats and no number may be named; of two equal keys the last one counts. Errors say what
was expected and where. -/

namespace PuzzleWorlds.Json

inductive Problem where
  | value
  | comma
  | colon
  | propertyName
  | unterminated
  | controlCharacter
  | escape
  | unicodeEscape
  | extraData
  | byteOrderMark
  | longNumeral (digits : Nat)
deriving DecidableEq, Repr

/-- A problem and the number of characters before it. -/
structure Failure where
  problem : Problem
  position : Nat
deriving DecidableEq, Repr

namespace Problem

def text : Problem → String
  | value => "Expecting value"
  | comma => "Expecting ',' delimiter"
  | colon => "Expecting ':' delimiter"
  | propertyName => "Expecting property name enclosed in double quotes"
  | unterminated => "Unterminated string starting at"
  | controlCharacter => "Invalid control character at"
  | escape => "Invalid \\escape"
  | unicodeEscape => "Invalid \\uXXXX escape"
  | extraData => "Extra data"
  | byteOrderMark => "Unexpected UTF-8 BOM (decode using utf-8-sig)"
  | longNumeral n =>
    s!"Exceeds the limit ({natText maxNumeralDigits} digits) for integer string conversion: " ++
      s!"value has {natText n} digits; use sys.set_int_max_str_digits() to increase the limit"

end Problem

/-- The line and the column of a position, both from one. -/
def lineColumn (s : List Char) (position : Nat) : Nat × Nat :=
  let before := s.take position
  (before.count '\n' + 1, (before.reverse.takeWhile (· != '\n')).length + 1)

def Failure.message (f : Failure) (source : String) : String :=
  match f.problem with
  | .longNumeral _ => f.problem.text
  | p =>
    let (line, column) := lineColumn source.toList f.position
    s!"{p.text}: line {natText line} column {natText column} (char {natText f.position})"

def isSpace (c : Char) : Bool := c == ' ' || c == '\t' || c == '\n' || c == '\r'

/-- The rest of a text with its position. -/
structure Cursor where
  position : Nat
  rest : List Char

namespace Cursor

def ofText (s : String) : Cursor := ⟨0, s.toList⟩

def skip (c : Cursor) (n : Nat) : Cursor := ⟨c.position + n, c.rest.drop n⟩

def skipSpaces (c : Cursor) : Cursor := c.skip (c.rest.takeWhile isSpace).length

def fail (c : Cursor) (p : Problem) : Except Failure α := .error ⟨p, c.position⟩

end Cursor

def hexValue? (c : Char) : Option Nat :=
  if c.isDigit then some (c.toNat - 48)
  else if 'a' ≤ c && c ≤ 'f' then some (c.toNat - 87)
  else if 'A' ≤ c && c ≤ 'F' then some (c.toNat - 55)
  else none

def hexNumber? (cs : List Char) : Option Nat :=
  cs.foldl (fun n c => do return 16 * (← n) + (← hexValue? c)) (some 0)

def isHighSurrogate (n : Nat) : Bool := 0xD800 ≤ n && n ≤ 0xDBFF

def isLowSurrogate (n : Nat) : Bool := 0xDC00 ≤ n && n ≤ 0xDFFF

/-- The character of a code point; half of a surrogate pair becomes the replacement character. -/
def charOf (n : Nat) : Char :=
  if isHighSurrogate n || isLowSurrogate n then Char.ofNat 0xFFFD else Char.ofNat n

def simpleEscape? : Char → Option Char
  | '"' => some '"'
  | '\\' => some '\\'
  | '/' => some '/'
  | 'b' => some (Char.ofNat 8)
  | 'f' => some (Char.ofNat 12)
  | 'n' => some '\n'
  | 'r' => some '\r'
  | 't' => some '\t'
  | _ => none

/-- The low half of a surrogate pair, if its escape comes next. -/
def lowHalf (c : Cursor) : Except Failure (Option Nat) :=
  match c.rest with
  | '\\' :: 'u' :: rest =>
    if rest.length < 5 then .ok none
    else match hexNumber? (rest.take 4) with
      | none => (c.skip 1).fail .unicodeEscape
      | some n => .ok (if isLowSurrogate n then some n else none)
  | _ => .ok none

/-- The character of an escape whose `\u` was just read, and the cursor after it. -/
def unicodeChar (c : Cursor) : Except Failure (Char × Cursor) := do
  if c.rest.length < 5 then c.fail .unicodeEscape
  match hexNumber? (c.rest.take 4) with
  | none => .error ⟨.unicodeEscape, c.position - 1⟩
  | some n =>
    let after := c.skip 4
    if isHighSurrogate n then
      match ← lowHalf after with
      | some low => return (charOf (0x10000 + (n - 0xD800) * 0x400 + (low - 0xDC00)), after.skip 6)
      | none => return (charOf n, after)
    return (charOf n, after)

/-- The characters of a string up to its closing quote; `start` is where it was opened. -/
def stringBody (start : Nat) : Nat → Cursor → List Char → Except Failure (String × Cursor)
  | 0, _, _ => .error ⟨.unterminated, start⟩
  | fuel + 1, c, acc =>
    match c.rest with
    | [] => .error ⟨.unterminated, start⟩
    | '"' :: _ => .ok (String.ofList acc.reverse, c.skip 1)
    | '\\' :: [] => .error ⟨.unterminated, start⟩
    | '\\' :: 'u' :: _ => do
      let (ch, c) ← unicodeChar (c.skip 2)
      stringBody start fuel c (ch :: acc)
    | '\\' :: e :: _ =>
      match simpleEscape? e with
      | some ch => stringBody start fuel (c.skip 2) (ch :: acc)
      | none => c.fail .escape
    | ch :: _ =>
      if ch.toNat < 32 then c.fail .controlCharacter
      else stringBody start fuel (c.skip 1) (ch :: acc)

/-- A string whose opening quote is next. -/
def string (c : Cursor) : Except Failure (String × Cursor) :=
  stringBody c.position (c.rest.length + 1) (c.skip 1) []

/-- Digits of a numeral: a zero alone, or digits that do not begin with one. -/
def wholeDigits (cs : List Char) : List Char :=
  match cs with
  | '0' :: _ => ['0']
  | _ => cs.takeWhile Char.isDigit

/-- A point with digits after it. -/
def fractionDigits (cs : List Char) : List Char :=
  match cs with
  | '.' :: rest => rest.takeWhile Char.isDigit
  | _ => []

/-- The characters of an exponent, if one comes next. -/
def exponentChars (cs : List Char) : List Char :=
  match cs with
  | e :: rest =>
    if e == 'e' || e == 'E' then
      let (sign, digits) := match rest with
        | '+' :: r => (['+'], r)
        | '-' :: r => (['-'], r)
        | r => ([], r)
      let ds := digits.takeWhile Char.isDigit
      if ds.isEmpty then [] else e :: sign ++ ds
    else []
  | [] => []

def number (c : Cursor) : Except Failure (Value × Cursor) :=
  let (negative, digits) := match c.rest with
    | '-' :: r => (true, r)
    | r => (false, r)
  let whole := wholeDigits digits
  if whole.isEmpty then c.fail .value else
  let fraction := fractionDigits (digits.drop whole.length)
  let point := if fraction.isEmpty then [] else '.' :: fraction
  let exponent := exponentChars (digits.drop (whole.length + point.length))
  let size := whole.length + point.length + exponent.length + (if negative then 1 else 0)
  let after := c.skip size
  if point.isEmpty && exponent.isEmpty then
    if whole.length > maxNumeralDigits then c.fail (.longNumeral whole.length)
    else
      let n : Int := digitsValue whole
      .ok (.int (if negative then -n else n), after)
  else
    match takeDecimal negative (whole ++ point ++ exponent) with
    | some (x, _) => .ok (.float x, after)
    | none => c.fail .value

/-- The names of constants. -/
def constants : List (String × Value) :=
  [("null", .null), ("true", .bool true), ("false", .bool false), ("NaN", .float (0.0 / 0.0)),
    ("Infinity", .float (1.0 / 0.0)), ("-Infinity", .float (-1.0 / 0.0))]

def constant? (c : Cursor) : Option (Value × Cursor) :=
  (constants.find? fun k => k.1.toList.isPrefixOf c.rest).map fun k => (k.2, c.skip k.1.length)

/-- Sets a key; a key that is there keeps its place. -/
def setKey (l : List (String × Value)) (k : String) (v : Value) : List (String × Value) :=
  if l.any fun e => e.1 == k then l.map fun e => if e.1 == k then (k, v) else e else l ++ [(k, v)]

mutual

def value : Nat → Cursor → Except Failure (Value × Cursor)
  | 0, c => c.fail .value
  | fuel + 1, c =>
    match c.rest with
    | '"' :: _ => do
      let (s, c) ← string c
      return (.text s, c)
    | '[' :: _ =>
      let c := (c.skip 1).skipSpaces
      match c.rest with
      | ']' :: _ => .ok (.list [], c.skip 1)
      | _ => items fuel c []
    | '\x7b' :: _ =>
      let c := (c.skip 1).skipSpaces
      match c.rest with
      | '\x7d' :: _ => .ok (.dict [], c.skip 1)
      | _ => entries fuel c []
    | _ => match constant? c with
      | some r => .ok r
      | none => number c

/-- The items of a list from the next one on; `acc` holds the earlier ones backwards. -/
def items : Nat → Cursor → List Value → Except Failure (Value × Cursor)
  | 0, c, _ => c.fail .value
  | fuel + 1, c, acc => do
    let (v, c) ← value fuel c
    let c := c.skipSpaces
    match c.rest with
    | ']' :: _ => return (.list (v :: acc).reverse, c.skip 1)
    | ',' :: _ => items fuel (c.skip 1).skipSpaces (v :: acc)
    | _ => c.fail .comma

def entries : Nat → Cursor → List (String × Value) → Except Failure (Value × Cursor)
  | 0, c, _ => c.fail .value
  | fuel + 1, c, acc => do
    match c.rest with
    | '"' :: _ => pure ()
    | _ => c.fail .propertyName
    let (k, c) ← string c
    let c := c.skipSpaces
    match c.rest with
    | ':' :: _ => pure ()
    | _ => c.fail .colon
    let (v, c) ← value fuel (c.skip 1).skipSpaces
    let c := c.skipSpaces
    let acc := setKey acc k v
    match c.rest with
    | '\x7d' :: _ => return (.dict acc, c.skip 1)
    | ',' :: _ => entries fuel (c.skip 1).skipSpaces acc
    | _ => c.fail .comma

end

/-- A text without the mark of its byte order. -/
def withoutMark (s : String) : String :=
  match s.toList with
  | c :: rest => if c.toNat == 0xFEFF then String.ofList rest else s
  | [] => s

/-- The value that a whole text holds. -/
def read (s : String) : Except Failure Value := do
  let start := Cursor.ofText s
  if start.rest.head? == some (Char.ofNat 0xFEFF) then start.fail .byteOrderMark
  let (v, c) ← value (2 * s.length + 2) start.skipSpaces
  let c := c.skipSpaces
  if c.rest.isEmpty then return v
  c.fail .extraData

end PuzzleWorlds.Json
