import PuzzleWorlds.Script.Token

/-! Text literals of a script: their letters, their escapes and, in formatted ones, the fields
between braces. -/

namespace PuzzleWorlds.Script

structure Literal where
  bytes : Bool
  raw : Bool
  formatted : Bool
  body : List Char
  /-- The line on which the body begins. -/
  line : Nat
deriving Repr

namespace Literal

/-- The literal that a token of kind text holds. -/
def ofToken (t : Token) : Literal :=
  let letters := (t.text.toList.takeWhile fun c => !isQuote c).map Char.toLower
  let quoted := t.text.toList.drop letters.length
  let q := quoted.headD '"'
  let size := if quoted.take 3 == [q, q, q] && quoted.length ≥ 6 then 3 else 1
  { bytes := letters.contains 'b', raw := letters.contains 'r', formatted := letters.contains 'f'
    body := (quoted.drop size).take (quoted.length - 2 * size), line := t.line }

/-- Whether hexadecimal digits follow, `n` of them. -/
def hasHex (n : Nat) (cs : List Char) : Bool :=
  (cs.take n).length == n && (cs.take n).all isHexadecimal

/-- Whether a code point of eight digits is in range. -/
def hasCodePoint (cs : List Char) : Bool :=
  hasHex 8 cs && (cs.take 2 == ['0', '0']) &&
    ((cs.drop 2).headD '0' == '0' || ((cs.drop 2).take 2 == ['1', '0']))

/-- Whether a character name in braces follows. -/
def hasCharacterName (cs : List Char) : Bool :=
  match cs with
  | '\x7b' :: rest =>
    let name := rest.takeWhile (· != '\x7d')
    !name.isEmpty && name.length < rest.length
  | _ => false

/-- Whether every escape is complete. -/
def escapesFit (bytes : Bool) : List Char → Bool
  | '\\' :: c :: rest =>
    (match c with
      | 'x' => hasHex 2 rest
      | 'u' => bytes || hasHex 4 rest
      | 'U' => bytes || hasCodePoint rest
      | 'N' => bytes || hasCharacterName rest
      | _ => true) && escapesFit bytes rest
  | _ :: rest => escapesFit bytes rest
  | [] => true

/-- The flaw of a literal's characters. -/
def flaw? (l : Literal) : Option Flaw :=
  if l.bytes && l.body.any fun c => c.toNat ≥ 128 then some .badBytes
  else if !l.raw && !escapesFit l.bytes l.body then some .badEscape
  else none

end Literal

/-- The text of an expression in a formatted literal, with the line on which it begins. -/
structure Field where
  text : List Char
  line : Nat
deriving Repr

namespace Field

/-- What is open while the end of a field's expression is looked for: a text, three times as long
or not, or brackets. -/
structure Nesting where
  quote : Option (Char × Bool) := none
  brackets : List Char := []

/-- The expression up to a mark outside of all brackets and texts, and what follows it. -/
def expressionEnd (n : Nesting) : List Char → Except Flaw (List Char × List Char)
  | [] =>
    if n.quote.isSome then .error (.badField "unterminated string")
    else match n.brackets with
      | b :: _ => .error (.badField s!"unmatched {Flaw.quotedChar b}")
      | [] => .error (.badField "expecting '\x7d'")
  | c :: rest =>
    let go (n : Nesting) : Except Flaw (List Char × List Char) :=
      (expressionEnd n rest).map fun r => (c :: r.1, r.2)
    if c == '\\' then .error (.badField "expression part cannot include a backslash")
    else match n.quote with
      | some (q, long) =>
        if c != q then go n
        else if !long then go { n with quote := none }
        else match rest with
          | d :: e :: rest' =>
            if d == q && e == q then
              (expressionEnd { n with quote := none } rest').map fun r => (c :: d :: e :: r.1, r.2)
            else go n
          | _ => go n
      | none =>
        if isQuote c then
          match rest with
          | d :: e :: rest' =>
            if d == c && e == c then
              (expressionEnd { n with quote := some (c, true) } rest').map fun r =>
                (c :: d :: e :: r.1, r.2)
            else go { n with quote := some (c, false) }
          | _ => go { n with quote := some (c, false) }
        else if c == '(' || c == '[' || c == '\x7b' then go { n with brackets := c :: n.brackets }
        else if c == '#' then .error (.badField "expression part cannot include '#'")
        else if n.brackets.isEmpty && ['!', ':', '\x7d', '=', '<', '>'].contains c then
          match rest with
          | '=' :: rest' =>
            if c == '!' || c == '=' || c == '<' || c == '>' then
              (expressionEnd n rest').map fun r => (c :: '=' :: r.1, r.2)
            else .ok ([], c :: rest)
          | _ => if c == '<' || c == '>' then go n else .ok ([], c :: rest)
        else if c == ')' || c == ']' || c == '\x7d' then
          match n.brackets with
          | [] => .error (.badField s!"unmatched {Flaw.quotedChar c}")
          | b :: outer =>
            if closes b c then go { n with brackets := outer }
            else .error (.badField s!"closing parenthesis {Flaw.quotedChar c} does not match")
        else go n

def isSpace (c : Char) : Bool :=
  c == ' ' || c == '\t' || c == '\n' || c == '\r' || c == '\x0c' || c == '\x0b'

/-- What follows the equals sign that shows the expression itself. -/
def afterEquals (cs : List Char) : List Char :=
  match cs with
  | '=' :: rest => rest.dropWhile isSpace
  | rest => rest

/-- What follows a conversion. -/
def afterConversion (cs : List Char) : Except Flaw (List Char) :=
  match cs with
  | '!' :: rest =>
    let name := rest.takeWhile fun c => c != '\x7d' && c != ':'
    let after := rest.drop name.length
    if after.isEmpty then .error (.badField "expecting '\x7d'")
    else if [['s'], ['r'], ['a']].contains name then .ok after
    else .error (.badField "invalid conversion character")
  | rest => .ok rest

/-- The characters of a name escape after its opening brace. -/
def afterName (cs : List Char) : List Char := (cs.dropWhile (· != '\x7d')).drop 1

/-- The fields of formatted text, up to its end or to the brace that closes the specification it
is. `level` counts the specifications around it. -/
def fields (l : Literal) : Nat → Nat → List Char → Except Flaw (List Field × List Char)
  | 0, _, rest => .ok ([], rest)
  | fuel + 1, level, cs =>
    match cs with
    | [] => .ok ([], [])
    | '\\' :: 'N' :: '\x7b' :: rest =>
      if l.raw then fields l fuel level ('N' :: '\x7b' :: rest)
      else fields l fuel level (afterName rest)
    | '\\' :: c :: rest =>
      if l.raw || c == '\x7b' || c == '\x7d' then fields l fuel level (c :: rest)
      else fields l fuel level rest
    | c :: rest =>
      if c != '\x7b' && c != '\x7d' then fields l fuel level rest
      else if level == 0 && rest.head? == some c then fields l fuel level (rest.drop 1)
      else if c == '\x7d' then
        if level == 0 then .error (.badField "single '\x7d' is not allowed") else .ok ([], cs)
      else if level ≥ 2 then .error (.badField "expressions nested too deeply")
      else do
        let (text, after) ← expressionEnd {} rest
        if text.all isSpace then throw (.badField "empty expression not allowed")
        let before := l.body.take (l.body.length - cs.length)
        let after ← afterConversion (afterEquals after)
        let (inner, after) ← match after with
          | ':' :: spec => fields l fuel (level + 1) spec
          | other => pure ([], other)
        match after with
        | '\x7d' :: after =>
          let (others, rest) ← fields l fuel level after
          return (⟨text, l.line + before.count '\n'⟩ :: inner ++ others, rest)
        | _ => throw (.badField "expecting '\x7d'")

end Field

/-- The fields of a literal. -/
def Literal.fields (l : Literal) : Except Flaw (List Field) :=
  if l.formatted then (Field.fields l (l.body.length + 1) 0 l.body).map (·.1) else .ok []

end PuzzleWorlds.Script
