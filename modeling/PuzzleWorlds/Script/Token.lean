import PuzzleWorlds.Script.Flaw
import PuzzleWorlds.Number.Reading
import PuzzleWorlds.Text.Identifier
import PuzzleWorlds.Text.Printable

/-! The tokens of a script. Indentation opens and closes blocks outside of brackets; inside them
line ends mean nothing. The tokens end where the script does or where no token can be read. -/

namespace PuzzleWorlds.Script

inductive TokenKind where
  | name | number | text | op | newline | indent | dedent | finish
deriving DecidableEq, Repr

/-- A token with its place, the column from zero. `depth` counts the brackets that are open after
it. -/
structure Token where
  kind : TokenKind
  text : String := ""
  line : Nat
  column : Nat
  depth : Nat := 0
deriving Repr

structure Bracket where
  opening : Char
  line : Nat
  column : Nat
deriving DecidableEq, Repr

/-- Where no token can be read. A certain failure counts even when the tokens before it make no
program; otherwise only an open bracket does. -/
structure ScanFailure where
  error : Error
  certain : Bool
  innermost : Option Bracket := none
deriving Repr

structure Tokens where
  tokens : List Token
  failure : Option ScanFailure := none
deriving Repr

def isNameStart (c : Char) : Bool := c.isAlpha || c == '_' || c.toNat ≥ 128

def isNamePart (c : Char) : Bool := c.isAlphanum || c == '_' || c.toNat ≥ 128

/-- Line ends as line feeds, the last one added if it is missing. -/
def unifyLineEnds : List Char → List Char
  | [] => ['\n']
  | ['\n'] => ['\n']
  | ['\r'] => ['\n']
  | ['\r', '\n'] => ['\n']
  | '\r' :: '\n' :: rest => '\n' :: unifyLineEnds rest
  | '\r' :: rest => '\n' :: unifyLineEnds rest
  | c :: rest => c :: unifyLineEnds rest

/-! Numerals. -/

/-- What follows digits that single underscores may group; there is none after a lone one. -/
def afterDigits (isDigit : Char → Bool) : List Char → Option (List Char)
  | '_' :: c :: rest => if isDigit c then afterDigits isDigit rest else none
  | c :: rest =>
    if isDigit c then afterDigits isDigit rest else if c == '_' then none else some (c :: rest)
  | [] => some []

def afterRadix (isDigit : Char → Bool) (cs : List Char) : Option (List Char) :=
  let digits := match cs with
    | '_' :: rest => rest
    | rest => rest
  match digits with
  | c :: rest => if isDigit c then afterDigits isDigit rest else none
  | [] => none

/-- Keywords that may follow a numeral without a blank. -/
def numeralFollowers : List (List Char) := ["and", "else", "for", "or", "not"].map String.toList

/-- Whether a numeral can end before these characters: no name follows, or a keyword does. -/
def endsNumeral (cs : List Char) : Bool :=
  match cs with
  | 'i' :: c :: _ => c == 'f' || c == 'n' || c == 's'
  | c :: _ =>
    !isNamePart c || numeralFollowers.any fun k =>
      k.isPrefixOf cs && !isNamePart ((cs.drop k.length).headD ' ')
  | [] => true

def isHexadecimal (c : Char) : Bool :=
  c.isDigit || ('a' ≤ c && c ≤ 'f') || ('A' ≤ c && c ≤ 'F')

def isOctal (c : Char) : Bool := '0' ≤ c && c ≤ '7'

def isBinary (c : Char) : Bool := c == '0' || c == '1'

def ended (kind : String) (rest : List Char) : Except Flaw (List Char) :=
  if endsNumeral rest then .ok rest else .error (.badNumber kind)

def orBad (kind : String) (x : Option (List Char)) : Except Flaw (List Char) :=
  match x with
  | some rest => .ok rest
  | none => .error (.badNumber kind)

/-- What follows an imaginary mark, if there is one, at the end of a decimal numeral. -/
def afterImaginary (cs : List Char) : Except Flaw (List Char) :=
  match cs with
  | 'j' :: rest | 'J' :: rest => ended "imaginary" rest
  | rest => ended "decimal" rest

def afterExponent (cs : List Char) : Except Flaw (List Char) :=
  match cs with
  | e :: rest =>
    if e == 'e' || e == 'E' then
      match rest with
      | s :: d :: after =>
        if s == '+' || s == '-' then
          if d.isDigit then orBad "decimal" (afterDigits Char.isDigit after) >>= afterImaginary
          else .error (.badNumber "decimal")
        else if s.isDigit then
          orBad "decimal" (afterDigits Char.isDigit (d :: after)) >>= afterImaginary
        else ended "decimal" cs
      | _ => ended "decimal" cs
    else afterImaginary cs
  | [] => .ok []

def afterFraction (cs : List Char) : Except Flaw (List Char) :=
  match cs with
  | c :: rest =>
    if c.isDigit then orBad "decimal" (afterDigits Char.isDigit rest) >>= afterExponent
    else afterExponent cs
  | [] => .ok []

/-- The rest of a decimal numeral after its whole part. -/
def afterWhole (cs : List Char) : Except Flaw (List Char) :=
  match cs with
  | '.' :: rest => afterFraction rest
  | rest => afterExponent rest

def isZero (c : Char) : Bool := c == '0'

/-- A numeral that begins with a zero: other digits may follow only before a point, an exponent or
an imaginary mark. -/
def afterZero (cs : List Char) : Except Flaw (List Char) := do
  let rest ← match afterDigits isZero cs with
    | some rest => pure rest
    | none => orBad "decimal" (afterDigits Char.isDigit cs)
  match rest with
  | c :: after =>
    if c.isDigit || c == '_' then
      let rest ← orBad "decimal" (afterDigits Char.isDigit after)
      match rest with
      | '.' :: _ | 'e' :: _ | 'E' :: _ | 'j' :: _ | 'J' :: _ => afterWhole rest
      | _ => .error (.badNumber "decimal")
    else afterWhole rest
  | [] => afterWhole rest

/-- What follows a numeral, which begins with a digit or with a point and a digit. -/
def afterNumeral (cs : List Char) : Except Flaw (List Char) :=
  match cs with
  | '.' :: rest => afterFraction rest
  | '0' :: 'x' :: rest | '0' :: 'X' :: rest =>
    orBad "hexadecimal" (afterRadix isHexadecimal rest) >>= ended "hexadecimal"
  | '0' :: 'o' :: rest | '0' :: 'O' :: rest =>
    orBad "octal" (afterRadix isOctal rest) >>= ended "octal"
  | '0' :: 'b' :: rest | '0' :: 'B' :: rest =>
    orBad "binary" (afterRadix isBinary rest) >>= ended "binary"
  | '0' :: rest => afterZero rest
  | _ :: rest => orBad "decimal" (afterDigits Char.isDigit rest) >>= afterWhole
  | [] => .ok []

/-! Text literals. -/

def isQuote (c : Char) : Bool := c == '\'' || c == '"'

/-- The letters before the quote of a text literal, if one begins here. -/
def textPrefix? (cs : List Char) : Option (List Char) :=
  match cs with
  | [] => none
  | q :: rest =>
    if isQuote q then some []
    else match rest with
      | r :: rest' =>
        if isQuote r then
          if ['b', 'u', 'r', 'f'].contains q.toLower then some [q] else none
        else match rest' with
          | s :: _ =>
            let pair := [q.toLower, r.toLower]
            let known := [['b', 'r'], ['r', 'b'], ['f', 'r'], ['r', 'f']]
            if isQuote s && known.contains pair then some [q, r] else none
          | [] => none
      | [] => none

/-- The rest after the closing quote of a literal; none when it is missing. -/
def afterShortText (quote : Char) : List Char → Option (List Char)
  | [] => none
  | '\\' :: _ :: rest => afterShortText quote rest
  | '\n' :: _ => none
  | c :: rest => if c == quote then some rest else afterShortText quote rest

def afterLongText (quote : Char) : List Char → Option (List Char)
  | [] => none
  | '\\' :: _ :: rest => afterLongText quote rest
  | c :: rest =>
    if c == quote && rest.take 2 == [quote, quote] then some (rest.drop 2)
    else afterLongText quote rest

inductive TextEnd where
  | found (rest : List Char)
  | missing (long : Bool)

/-- Where a literal ends whose opening quote comes next. -/
def textEnd (cs : List Char) : TextEnd :=
  match cs with
  | q :: rest =>
    if rest.take 2 == [q, q] then
      match afterLongText q (rest.drop 2) with
      | some r => .found r
      | none => .missing true
    else match afterShortText q rest with
      | some r => .found r
      | none => .missing false
  | [] => .missing false

/-- The number of line ends that a broken literal runs over before it is given up. -/
def linesBeforeBreak : List Char → Nat
  | [] => 0
  | '\\' :: '\n' :: rest => 1 + linesBeforeBreak rest
  | '\\' :: _ :: rest => linesBeforeBreak rest
  | '\n' :: _ => 0
  | _ :: rest => linesBeforeBreak rest

/-! Operators. -/

def threeCharOps : List (List Char) :=
  ["**=", "//=", ">>=", "<<=", "..."].map String.toList

def twoCharOps : List (List Char) :=
  ["!=", "%=", "&=", "**", "*=", "+=", "-=", "->", "//", "/=", ":=", "<<", "<=", "<>", "==", ">=",
    ">>", "@=", "^=", "|="].map String.toList

def operatorLength (cs : List Char) : Nat :=
  if threeCharOps.any fun o => o.isPrefixOf cs then 3
  else if twoCharOps.any fun o => o.isPrefixOf cs then 2
  else 1

def maxBrackets : Nat := 200

def maxIndents : Nat := 100

def closes (opening closing : Char) : Bool :=
  (opening == '(' && closing == ')') || (opening == '[' && closing == ']') ||
    (opening == '\x7b' && closing == '\x7d')

/-! The scanner. -/

/-- The width of an indentation, with tabs to the next multiple of eight and with tabs as one. -/
structure Indent where
  width : Nat := 0
  plain : Nat := 0
deriving DecidableEq, Repr

/-- A line is `blank` when it holds nothing or only a comment. -/
structure Scanner where
  rest : List Char
  line : Nat := 1
  column : Nat := 0
  brackets : List Bracket := []
  indents : List Indent := []
  atLineStart : Bool := true
  blank : Bool := false

/-- Tokens read in one step, and how to go on. -/
inductive Step where
  | read (tokens : List Token) (s : Scanner)
  | finished (tokens : List Token)
  | failed (f : ScanFailure)

namespace Scanner

def depth (s : Scanner) : Nat := s.brackets.length

def token (s : Scanner) (kind : TokenKind) (text : List Char := []) : Token :=
  { kind, text := String.ofList text, line := s.line, column := s.column, depth := s.depth }

def errorHere (s : Scanner) (f : Flaw) : Error := ⟨f, s.line, s.column + 1⟩

def fail (s : Scanner) (f : Flaw) : Step := .failed ⟨s.errorHere f, true, s.brackets.head?⟩

/-- A failure that counts only when the program before it is well formed. -/
def failLate (s : Scanner) (f : Flaw) : Step := .failed ⟨s.errorHere f, false, s.brackets.head?⟩

/-- Moves over `n` characters of one line. -/
def skip (s : Scanner) (n : Nat) : Scanner :=
  { s with rest := s.rest.drop n, column := s.column + n }

/-- Moves to `rest`, which may lie on a later line. -/
def moveTo (s : Scanner) (rest : List Char) : Scanner :=
  let taken := s.rest.take (s.rest.length - rest.length)
  let lines := taken.count '\n'
  let tail := (taken.reverse.takeWhile (· != '\n')).length
  { s with rest, line := s.line + lines, column := if lines == 0 then s.column + tail else tail }

/-- Moves over a line end; the end of the script is on its last line. -/
def nextLine (s : Scanner) : Scanner :=
  let rest := s.rest.drop 1
  { s with rest, line := if rest.isEmpty then s.line else s.line + 1, column := 0
           atLineStart := true, blank := false }

/-- The script ends where it may not; an open bracket is to blame if there is one. -/
def endEarly (s : Scanner) : Step :=
  match s.brackets with
  | b :: _ => .failed ⟨⟨.neverClosed b.opening, b.line, b.column + 1⟩, false, some b⟩
  | [] => s.failLate .endOfScript

/-- The characters are over: the script ends, inside a bracket it cannot. -/
def finish (s : Scanner) : Step :=
  if s.depth > 0 then s.endEarly
  else .finished (s.indents.map (fun _ => s.token .dedent) ++ [s.token .finish])

/-- The indentation at the start of a line, and the rest of the line. Of a line that a backslash
continues, the first indentation counts. -/
def indentation (first : Nat) : Indent → List Char → Except Flaw (Indent × List Char)
  | i, ' ' :: rest => indentation first ⟨i.width + 1, i.plain + 1⟩ rest
  | i, '\t' :: rest => indentation first ⟨(i.width / 8 + 1) * 8, i.plain + 1⟩ rest
  | _, '\\' :: '\n' :: [] => .error .endOfScript
  | i, '\\' :: '\n' :: rest => indentation (if first == 0 then i.width else first) i rest
  | i, c :: rest =>
    if c == '\x0c' then indentation first {} rest
    else if c == '\\' then .error .afterContinuation
    else .ok (if first == 0 then i else ⟨first, first⟩, c :: rest)
  | i, [] => .ok (i, [])

def current (s : Scanner) : Indent := s.indents.headD {}

/-- Opens or closes blocks for the indentation of a line that is not blank. -/
def indentTo (s : Scanner) (i : Indent) : Step :=
  let here := s.current
  if i.width == here.width then
    if i.plain == here.plain then .read [] s else s.failLate .mixedTabs
  else if i.width > here.width then
    if s.indents.length + 1 ≥ maxIndents then s.failLate .tooManyIndents
    else if i.plain ≤ here.plain then s.failLate .mixedTabs
    else .read [s.token .indent] { s with indents := i :: s.indents }
  else
    let kept := s.indents.dropWhile fun j => j.width > i.width
    let outer := kept.headD {}
    if outer.width != i.width then s.failLate .noOuterIndent
    else if outer.plain != i.plain then s.failLate .mixedTabs
    else
      let closed := s.indents.length - kept.length
      .read (List.replicate closed (s.token .dedent)) { s with indents := kept }

/-- The start of a line: its indentation counts unless it is blank or inside brackets. -/
def lineStart (s : Scanner) : Step :=
  match indentation 0 {} s.rest with
  | .error .endOfScript => s.endEarly
  | .error f => s.failLate f
  | .ok (i, rest) =>
    let s := { s.moveTo rest with atLineStart := false }
    match rest with
    | [] => s.finish
    | '#' :: _ | '\n' :: _ => .read [] { s with blank := true }
    | _ => if s.depth > 0 then .read [] s else s.indentTo i

/-- A line end is a token unless the line is blank or goes on inside a bracket. -/
def lineEnd (s : Scanner) : Step :=
  if s.blank || s.depth > 0 then .read [] s.nextLine
  else .read [s.token .newline] s.nextLine

def scanText (s : Scanner) (letters : List Char) : Step :=
  match textEnd (s.rest.drop letters.length) with
  | .found rest =>
    let text := s.rest.take (s.rest.length - rest.length)
    .read [s.token .text text] (s.moveTo rest)
  | .missing true =>
    s.fail (.unterminatedLongText (s.line + (s.rest.count '\n' - 1)))
  | .missing false =>
    s.fail (.unterminatedText (s.line + linesBeforeBreak (s.rest.drop (letters.length + 1))))

def scanName (s : Scanner) : Step :=
  let name := s.rest.takeWhile isNamePart
  match name.find? fun c => c.toNat ≥ 128 && !isIdentifierPart c with
  | some c => s.fail (.badCharacter c)
  | none =>
    if isIdentifier (String.ofList name) then
      .read [s.token .name name] (s.skip name.length)
    else s.fail (.badCharacter (name.headD ' '))

def scanNumber (s : Scanner) : Step :=
  match afterNumeral s.rest with
  | .ok rest =>
    let text := s.rest.take (s.rest.length - rest.length)
    if text.all (fun c => c.isDigit || c == '_') &&
        (text.filter Char.isDigit).length > maxNumeralDigits then s.fail .longNumber
    else .read [s.token .number text] (s.skip text.length)
  | .error f => s.fail f

def openBracket (s : Scanner) (c : Char) : Step :=
  if s.depth ≥ maxBrackets then s.fail .tooManyBrackets
  else
    let s' := { s with brackets := ⟨c, s.line, s.column⟩ :: s.brackets }
    .read [s'.token .op [c]] (s'.skip 1)

def closeBracket (s : Scanner) (c : Char) : Step :=
  match s.brackets with
  | [] => s.fail (.unmatched c)
  | b :: outer =>
    if closes b.opening c then
      let s' := { s with brackets := outer }
      .read [s'.token .op [c]] (s'.skip 1)
    else s.fail (.mismatched c b.opening b.line (b.line == s.line))

/-- One step within a line. -/
def within (s : Scanner) : Step :=
  match s.rest with
  | [] => s.finish
  | c :: rest =>
    if c == ' ' || c == '\t' || c == '\x0c' then .read [] (s.skip 1)
    else if c == '#' then .read [] (s.skip (s.rest.takeWhile (· != '\n')).length)
    else if c == '\n' then s.lineEnd
    else if c == '\\' then
      match rest with
      | '\n' :: after =>
        if after.isEmpty then s.endEarly
        else .read [] { s with rest := after, line := s.line + 1, column := 0 }
      | _ => s.failLate .afterContinuation
    else match textPrefix? s.rest with
      | some letters => s.scanText letters
      | none =>
        if isNameStart c then s.scanName
        else if c.isDigit || (c == '.' && (rest.headD ' ').isDigit) then s.scanNumber
        else if c == '(' || c == '[' || c == '\x7b' then s.openBracket c
        else if c == ')' || c == ']' || c == '\x7d' then s.closeBracket c
        else if !isPrintable c then s.fail (.badCharacter c)
        else
          let n := operatorLength s.rest
          .read [s.token .op (s.rest.take n)] (s.skip n)

/-- All tokens from here on. Each step but those at line starts consumes a character, so twice the
number of characters bounds their number. -/
def run : Nat → Scanner → Tokens
  | 0, s => { tokens := [s.token .finish] }
  | fuel + 1, s =>
    match if s.atLineStart then s.lineStart else s.within with
    | .finished ts => { tokens := ts }
    | .failed f => { tokens := [], failure := some f }
    | .read ts s' =>
      let after := run fuel s'
      { after with tokens := ts ++ after.tokens }

end Scanner

/-- The tokens of a text, its first character on the given line. -/
def scan (text : List Char) (line : Nat := 1) : Tokens :=
  let cs := unifyLineEnds text
  Scanner.run (2 * cs.length + 2) { rest := cs, line }

end PuzzleWorlds.Script
