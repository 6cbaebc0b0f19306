import PuzzleWorlds.Json.Read

/-! What is wrong with the text of a JSON document, and where: the first byte that fits nowhere.
Numerals may not begin with a spare zero, and brackets nest at most two hundred deep. -/

namespace PuzzleWorlds.Json

inductive Defect where
  | endInList
  | endInObject
  | endInText
  | endInValue
  | expectedColon
  | expectedListEnd
  | expectedObjectEnd
  | expectedIdent
  | expectedValue
  | invalidEscape
  | invalidNumber
  | numberOutOfRange
  | controlCharacter
  | keyNotText
  | loneSurrogate
  | trailingComma
  | trailingCharacters
  | unfinishedEscape
  | tooDeep
deriving DecidableEq, Repr

def Defect.text : Defect → String
  | endInList => "EOF while parsing a list"
  | endInObject => "EOF while parsing an object"
  | endInText => "EOF while parsing a string"
  | endInValue => "EOF while parsing a value"
  | expectedColon => "expected \x60:\x60"
  | expectedListEnd => "expected \x60,\x60 or \x60]\x60"
  | expectedObjectEnd => "expected \x60,\x60 or \x60\x7d\x60"
  | expectedIdent => "expected ident"
  | expectedValue => "expected value"
  | invalidEscape => "invalid escape"
  | invalidNumber => "invalid number"
  | numberOutOfRange => "number out of range"
  | controlCharacter => "control character (\\u0000-\\u001F) found while parsing a string"
  | keyNotText => "key must be a string"
  | loneSurrogate => "lone leading surrogate in hex escape"
  | trailingComma => "trailing comma"
  | trailingCharacters => "trailing characters"
  | unfinishedEscape => "unexpected end of hex escape"
  | tooDeep => "recursion limit exceeded"

/-- A defect and the rest of the text from its place on. -/
structure Fault where
  defect : Defect
  rest : List Char
deriving DecidableEq, Repr

/-- A check goes through the text and yields what is left of it. -/
abbrev Check := Except Fault (List Char)

namespace Fault

def isNumberStart (c : Char) : Bool := c.isDigit || c == '-' || c == 'I' || c == 'N'

def skipSpaces (cs : List Char) : List Char := cs.dropWhile isSpace

/-- The characters of a word after its first one, which is known. -/
def word : List Char → List Char → Check
  | [], rest => .ok rest
  | _ :: _, [] => .error ⟨.endInValue, []⟩
  | w :: ws, c :: cs => if c == w then word ws cs else .error ⟨.expectedIdent, c :: cs⟩

/-- Digits, at least one. -/
def digits (cs : List Char) : Check :=
  match cs with
  | [] => .error ⟨.endInValue, []⟩
  | c :: rest =>
    if c.isDigit then .ok (rest.dropWhile Char.isDigit) else .error ⟨.invalidNumber, cs⟩

def exponent (cs : List Char) : Check :=
  match cs with
  | c :: rest =>
    if c == 'e' || c == 'E' then
      match rest with
      | '+' :: rest => digits rest
      | '-' :: rest => digits rest
      | rest => digits rest
    else .ok cs
  | [] => .ok []

def fraction (cs : List Char) : Check :=
  match cs with
  | '.' :: rest => do exponent (← digits rest)
  | _ => exponent cs

def unsignedNumber (cs : List Char) : Check :=
  match cs with
  | [] => .error ⟨.endInValue, []⟩
  | 'I' :: rest => word "nfinity".toList rest
  | '0' :: rest =>
    match rest with
    | c :: _ => if c.isDigit then .error ⟨.invalidNumber, rest⟩ else fraction rest
    | [] => .ok []
  | c :: rest =>
    if c.isDigit then
      let whole := c :: rest.takeWhile Char.isDigit
      let after := rest.dropWhile Char.isDigit
      let isInteger := match after with
        | a :: _ => !(a == '.' || a == 'e' || a == 'E')
        | [] => true
      if isInteger && whole.length > maxNumeralDigits then .error ⟨.numberOutOfRange, after⟩
      else fraction after
    else .error ⟨.invalidNumber, cs⟩

def number (cs : List Char) : Check :=
  match cs with
  | 'N' :: rest => word "aN".toList rest
  | '-' :: rest => unsignedNumber rest
  | _ => unsignedNumber cs

/-- The number of four hexadecimal digits, and what follows them. -/
def fourDigits (cs : List Char) : Except Fault (Nat × List Char) :=
  let four := cs.take 4
  if (four.foldl (fun n c => n + c.utf8Size) 0) < 4 then .error ⟨.endInText, []⟩
  else match four.find? fun c => (hexValue? c).isNone with
    | some _ => .error ⟨.invalidEscape, cs.dropWhile fun c => (hexValue? c).isSome⟩
    | none => .ok ((hexNumber? four).getD 0, cs.drop 4)

/-- The digits of an escaped code point; the first half of a pair needs the second. -/
def codePoint (cs : List Char) : Check := do
  let (n, after) ← fourDigits cs
  let last := cs.drop 3
  if isLowSurrogate n then .error ⟨.loneSurrogate, last⟩
  if !isHighSurrogate n then return after
  match after with
  | '\\' :: 'u' :: rest =>
    let (low, after) ← fourDigits rest
    if isLowSurrogate low then return after
    .error ⟨.loneSurrogate, rest.drop 3⟩
  | '\\' :: [] => .error ⟨.endInText, []⟩
  | [] => .error ⟨.endInText, []⟩
  | '\\' :: rest => .error ⟨.unfinishedEscape, rest⟩
  | [_] => .error ⟨.unfinishedEscape, after⟩
  | _ => .error ⟨.unfinishedEscape, after⟩

/-- The characters of a string after its opening quote. -/
def textBody : Nat → List Char → Check
  | 0, cs => .error ⟨.endInText, cs⟩
  | fuel + 1, cs =>
    match cs with
    | [] => .error ⟨.endInText, []⟩
    | '"' :: rest => .ok rest
    | '\\' :: [] => .error ⟨.endInText, []⟩
    | '\\' :: 'u' :: rest => do textBody fuel (← codePoint rest)
    | '\\' :: e :: rest =>
      if (simpleEscape? e).isSome then textBody fuel rest else .error ⟨.invalidEscape, e :: rest⟩
    | c :: rest => if c.toNat < 32 then .error ⟨.controlCharacter, cs⟩ else textBody fuel rest

def quoted (cs : List Char) : Check := textBody (cs.length + 1) (cs.drop 1)

/-- A key with its colon. -/
def key (cs : List Char) : Check := do
  let after ← quoted cs
  match skipSpaces after with
  | ':' :: rest => return rest
  | [] => .error ⟨.endInObject, []⟩
  | rest => .error ⟨.expectedColon, rest⟩

mutual

/-- A value inside `depth` brackets. -/
def value : Nat → Nat → List Char → Check
  | 0, _, cs => .error ⟨.tooDeep, cs⟩
  | fuel + 1, depth, cs =>
    match skipSpaces cs with
    | [] => .error ⟨.endInValue, []⟩
    | 't' :: rest => word "rue".toList rest
    | 'f' :: rest => word "alse".toList rest
    | 'n' :: rest => word "ull".toList rest
    | '"' :: rest => quoted ('"' :: rest)
    | '[' :: rest =>
      if depth ≥ 200 then .error ⟨.tooDeep, '[' :: rest⟩
      else match skipSpaces rest with
        | [] => .error ⟨.endInList, []⟩
        | ']' :: rest => .ok rest
        | rest => items fuel (depth + 1) rest
    | '\x7b' :: rest =>
      if depth ≥ 200 then .error ⟨.tooDeep, '\x7b' :: rest⟩
      else match skipSpaces rest with
        | [] => .error ⟨.endInObject, []⟩
        | '\x7d' :: rest => .ok rest
        | '"' :: rest => entries fuel (depth + 1) ('"' :: rest)
        | rest => .error ⟨.keyNotText, rest⟩
    | c :: rest =>
      if isNumberStart c then number (c :: rest) else .error ⟨.expectedValue, c :: rest⟩

def items : Nat → Nat → List Char → Check
  | 0, _, cs => .error ⟨.tooDeep, cs⟩
  | fuel + 1, depth, cs => do
    let after ← value fuel depth cs
    match skipSpaces after with
    | [] => .error ⟨.endInList, []⟩
    | ']' :: rest => return rest
    | ',' :: rest =>
      match skipSpaces rest with
      | [] => .error ⟨.endInValue, []⟩
      | ']' :: rest => .error ⟨.trailingComma, ']' :: rest⟩
      | rest => items fuel depth rest
    | rest => .error ⟨.expectedListEnd, rest⟩

def entries : Nat → Nat → List Char → Check
  | 0, _, cs => .error ⟨.tooDeep, cs⟩
  | fuel + 1, depth, cs => do
    let after ← value fuel depth (← key cs)
    match skipSpaces after with
    | [] => .error ⟨.endInObject, []⟩
    | '\x7d' :: rest => return rest
    | ',' :: rest =>
      match skipSpaces rest with
      | [] => .error ⟨.endInValue, []⟩
      | '"' :: rest => entries fuel depth ('"' :: rest)
      | '\x7d' :: rest => .error ⟨.trailingComma, '\x7d' :: rest⟩
      | rest => .error ⟨.keyNotText, rest⟩
    | rest => .error ⟨.expectedObjectEnd, rest⟩

end

/-- The first fault of a whole text, if it has one. -/
def ofText? (s : String) : Option Fault :=
  match value (2 * s.length + 2) 0 s.toList with
  | .error f => some f
  | .ok after => match skipSpaces after with
    | [] => none
    | rest => some ⟨.trailingCharacters, rest⟩

/-- The line of the fault and its column, counted in bytes; the end of the text is no byte. -/
def place (f : Fault) (s : String) : Nat × Nat :=
  let cs := s.toList
  let upTo := if f.rest.isEmpty then cs else cs.take (cs.length - f.rest.length + 1)
  let current := upTo.reverse.takeWhile (· != '\n')
  let bytes := current.foldl (fun n c => n + c.utf8Size) 0
  let beyond := match f.rest, current with
    | c :: _, _ :: _ => c.utf8Size - 1
    | _, _ => 0
  (upTo.count '\n' + 1, bytes - beyond)

def message (f : Fault) (s : String) : String :=
  let (line, column) := f.place s
  s!"{f.defect.text} at line {natText line} column {natText column}"

end Fault

end PuzzleWorlds.Json
