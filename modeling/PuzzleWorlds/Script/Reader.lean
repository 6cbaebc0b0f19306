import PuzzleWorlds.Script.Token
import PuzzleWorlds.Script.Tree

/-! Reading tokens. A reader stops at the first token that fits nowhere; the stop remembers how far
it got, so that of two ways to read a text the one that got further is reported. -/

namespace PuzzleWorlds.Script

/-- Why reading stopped. `left` is the number of tokens from the furthest one on and `reached` its
line; `scanning` says that no token could be read there. -/
structure Stop where
  error : Error
  left : Nat
  reached : Nat
  scanning : Bool := false

/-- `last` is the token read last and `seen` the furthest one that was looked at beyond the next;
`reached` is the furthest line that a reading which was given up got to. While `helpful` is set, a
missing comma is looked for when an expression follows another one; otherwise an expression ends
where its continuation fails. -/
structure ReaderState where
  tokens : List Token
  failure : Option ScanFailure := none
  last : Option Token := none
  seen : Option Token := none
  reached : Nat := 0
  helpful : Bool := true

/-- The furthest line looked at, which is at least `line` once no token is left. -/
def ReaderState.furthestLine (s : ReaderState) (line : Nat) : Nat :=
  match s.tokens with
  | t :: _ => max t.line s.reached
  | [] => max line s.reached

def ReaderState.reaching (s : ReaderState) (line : Nat) : ReaderState :=
  { s with reached := max s.reached line }

abbrev Reader (α : Type) := StateT ReaderState (Except Stop) α

namespace Reader

def ofTokens (ts : Tokens) : ReaderState := { tokens := ts.tokens, failure := ts.failure }

def stop (e : Error) : Reader α := do
  let s ← get
  throw { error := e, left := s.tokens.length, reached := s.furthestLine e.line }

def peek : Reader Token := do
  let s ← get
  match s.tokens, s.failure with
  | t :: _, _ => return t
  | [], some f => throw { error := f.error, left := 0, reached := f.error.line, scanning := true }
  | [], none => throw { error := ⟨.endOfScript, 0, 0⟩, left := 0, reached := 0, scanning := true }

/-- The token after the next one, if the tokens go that far. -/
def peekSecond : Reader (Option Token) := do
  let s ← get
  match s.tokens with
  | [_] => match s.failure with
    | some f => throw { error := f.error, left := 0, reached := f.error.line, scanning := true }
    | none => return none
  | _ :: t :: _ =>
    set { s.reaching t.line with seen := some t }
    return some t
  | [] => return none

def next : Reader Token := do
  let t ← peek
  modify fun s => { s with tokens := s.tokens.drop 1, last := some t }
  return t

def stopAtToken (t : Token) (f : Flaw) : Reader α := stop ⟨f, t.line, t.column + 1⟩

def stopAtTree (t : Tree) (f : Flaw) : Reader α := stop ⟨f, t.line, t.column + 1⟩

/-- Stops at the next token with a flaw. -/
def stopHere (f : Flaw) : Reader α := do stopAtToken (← peek) f

/-- The next token fits nowhere. What was looked at beyond it is where the mistake is shown. -/
def unexpected : Reader α := do
  let t ← peek
  match t.kind, (← get).seen with
  | .indent, _ => stopAtToken t .unexpectedIndent
  | .dedent, _ => stopAtToken t .unexpectedDedent
  | _, some u =>
    let isBeyond := t.line < u.line || (t.line == u.line && t.column < u.column)
    stopAtToken (if isBeyond then u else t) .invalid
  | _, none => stopAtToken t .invalid

def keywords : List String :=
  ["False", "None", "True", "and", "as", "assert", "async", "await", "break", "class", "continue",
    "def", "del", "elif", "else", "except", "finally", "for", "from", "global", "if", "import",
    "in", "is", "lambda", "nonlocal", "not", "or", "pass", "raise", "return", "try", "while",
    "with", "yield"]

end Reader

namespace Token

def isOp (t : Token) (s : String) : Bool := t.kind == .op && t.text == s

def isWord (t : Token) (s : String) : Bool := t.kind == .name && t.text == s

/-- Whether the token is a name that is no keyword. -/
def isFreeName (t : Token) : Bool := t.kind == .name && !Reader.keywords.contains t.text

/-- Whether an expression can begin with the token, after another expression has ended. -/
def startsExpression (t : Token) : Bool :=
  match t.kind with
  | .name => t.isFreeName || ["True", "False", "None", "not", "lambda", "await"].contains t.text
  | .number | .text => true
  | .op => ["(", "[", "\x7b", "-", "+", "~", "..."].contains t.text
  | _ => false

end Token

namespace Reader

def atOp (s : String) : Reader Bool := return (← peek).isOp s

def atWord (s : String) : Reader Bool := return (← peek).isWord s

def accept (test : Token → Bool) : Reader Bool := do
  if test (← peek) then
    discard next
    return true
  return false

def acceptOp (s : String) : Reader Bool := accept fun t => t.isOp s

def acceptWord (s : String) : Reader Bool := accept fun t => t.isWord s

def expectOp (s : String) : Reader Unit := do
  if !(← acceptOp s) then unexpected

def expectWord (s : String) : Reader Unit := do
  if !(← acceptWord s) then unexpected

/-- An operator that nothing can take the place of. -/
def requireOp (s : String) : Reader Unit := do
  if !(← acceptOp s) then stopHere (.expected s!"'{s}'")

/-- A name that is no keyword. -/
def freeName : Reader Token := do
  if (← peek).isFreeName then next else unexpected

/-- The further of two stops; the first one of two that got equally far. -/
def furthest (a b : Stop) : Stop := if b.left < a.left then b else a

/-- The first way of reading that succeeds. Where no token can be read, there is no other way. -/
def either (p q : Reader α) : Reader α := fun s =>
  match p s with
  | .ok r => .ok r
  | .error a =>
    if a.scanning then .error a
    else match q s with
      | .ok (r, s') => .ok (r, s'.reaching a.reached)
      | .error b => .error (if b.scanning then b else furthest a b)

/-- Whether a reader succeeds from here, without moving on; its result comes with the token it read
last. -/
def succeeds (p : Reader α) : Reader (Option (α × Option Token)) := fun s =>
  match p s with
  | .ok (a, s') => .ok (some (a, s'.last), s.reaching (s'.furthestLine 0))
  | .error e => if e.scanning then .error e else .ok (none, s.reaching e.reached)

/-- Whether a reader succeeds from here, without moving on. A mistake that is known by more than its
place stops the reading. -/
def soundly (p : Reader α) : Reader Bool := fun s =>
  match p s with
  | .ok (_, s') => .ok (true, s.reaching (s'.furthestLine 0))
  | .error e =>
    if e.scanning || e.error.flaw != .invalid then .error e
    else .ok (false, s.reaching e.reached)

/-- What may follow `a`. Unless help is wanted, `a` stands alone where that fails. -/
def further (a : α) (p : Reader α) : Reader α := do
  if (← get).helpful then p else either p (pure a)

def place (t : Token) (form : Form) (children : List Tree) : Tree :=
  .node form t.line t.column children

end Reader

end PuzzleWorlds.Script
