import PuzzleWorlds.Script.Pattern

/-! Statements of scripts, and whole scripts. A statement is a tree over the expressions in it. -/

namespace PuzzleWorlds.Script

open Reader

def statementOf (t : Token) (children : List Tree) : Tree := other t "statement" children

def augmentedOps : List String :=
  ["+=", "-=", "*=", "/=", "%=", "@=", "&=", "|=", "^=", "<<=", ">>=", "**=", "//="]

/-- The right-hand side of an assignment. -/
def assigned (n : Nat) : Reader Tree := do
  if ← atWord "yield" then yieldExpression n else starExpressions n

/-- What follows an equals sign: values, of which all but the last are targets too. -/
def assignedRest : Nat → Reader (List Tree)
  | 0 => unexpected
  | n + 1 => do
    let a ← assigned n
    if ← atOp "=" then
      checkTarget .assigned a
      discard next
      return a :: (← assignedRest n)
    return [a]

/-- An expression, or an assignment to it: with a type, with an operator, or plain. -/
def expressionStatement (n : Nat) : Reader Tree := do
  let start ← peek
  let a ← assigned n
  let t ← peek
  if t.isOp ":" then
    if !a.isSingleTarget then
      discard next
      discard (expression n)
      stopAtTree a (.notAnnotatable a.form.what)
    discard next
    let type ← expression n
    if ← acceptOp "=" then return statementOf start [a, type, ← assigned n]
    return statementOf start [a, type]
  if t.kind == .op && augmentedOps.contains t.text then
    if !a.isSingleTarget then stopAtTree a (.notAugmentable a.form.what)
    discard next
    return statementOf start [a, ← assigned n]
  if t.isOp "=" then
    checkTarget .assigned a
    discard next
    return statementOf start (a :: (← assignedRest n))
  return statementOf start [a]

def dottedName : Nat → Reader Unit
  | 0 => unexpected
  | n + 1 => do
    discard freeName
    if ← acceptOp "." then dottedName n

/-- Another name for what is imported. -/
def importAlias : Reader Unit := do
  if ← acceptWord "as" then discard freeName

def importedModules : Nat → Reader Unit
  | 0 => unexpected
  | n + 1 => do
    dottedName n
    importAlias
    if ← acceptOp "," then importedModules n

/-- Imported names; a last comma needs brackets around the names. -/
def importedNames : Nat → Bool → Reader Unit
  | 0, _ => unexpected
  | n + 1, bracketed => do
    discard freeName
    importAlias
    if ← acceptOp "," then
      if bracketed then
        if ← atOp ")" then return
      else if (← peek).kind == .newline then stopHere .trailingComma
      importedNames n bracketed

/-- The dots before the module of a relative import. -/
def importDots : Nat → Reader Bool
  | 0 => return false
  | n + 1 => do
    if ← accept fun t => t.isOp "." || t.isOp "..." then
      discard (importDots n)
      return true
    return false

def importFrom (n : Nat) : Reader Unit := do
  let relative ← importDots n
  if !(relative && (← atWord "import")) then dottedName n
  expectWord "import"
  if ← acceptOp "*" then return
  if ← acceptOp "(" then
    importedNames n true
    expectOp ")"
  else importedNames n false

def declaredNames : Nat → Reader Unit
  | 0 => unexpected
  | n + 1 => do
    discard freeName
    if ← acceptOp "," then declaredNames n

/-- Whether the statement ends here. -/
def atStatementEnd : Reader Bool := do
  let t ← peek
  return t.kind == .newline || t.isOp ";"

def optionalExpressions (n : Nat) : Reader (List Tree) := do
  if ← atStatementEnd then return []
  return [← starExpressions n]

/-- A statement that holds no other statements. -/
def simpleStatement (n : Nat) : Reader Tree := do
  let t ← peek
  let plain (p : Reader Unit) : Reader Tree := do
    discard next
    p
    return statementOf t []
  if t.kind != .name then expressionStatement n
  else match t.text with
    | "pass" | "break" | "continue" => plain (pure ())
    | "return" =>
      discard next
      return statementOf t (← optionalExpressions n)
    | "import" => plain (importedModules n)
    | "from" => plain (importFrom n)
    | "global" | "nonlocal" => plain (declaredNames n)
    | "raise" =>
      discard next
      if ← atStatementEnd then return statementOf t []
      let a ← expression n
      if ← acceptWord "from" then return statementOf t [a, ← expression n]
      return statementOf t [a]
    | "assert" =>
      discard next
      let a ← expression n
      if ← acceptOp "," then return statementOf t [a, ← expression n]
      return statementOf t [a]
    | "del" =>
      discard next
      let a ← starExpressions n
      checkTarget .deleted a
      if !(← atStatementEnd) then unexpected
      return statementOf t [a]
    | _ => expressionStatement n

/-- Statements on one line. -/
def simpleStatements : Nat → Reader (List Tree)
  | 0 => unexpected
  | n + 1 => do
    let a ← simpleStatement n
    let separated ← acceptOp ";"
    if (← peek).kind == .newline then
      discard next
      return [a]
    if !separated then unexpected
    return a :: (← simpleStatements n)

/-- The colon before a block; where the line ends instead, it is missed. -/
def blockColon (required : Bool) : Reader Unit := do
  if required || (← peek).kind == .newline then requireOp ":" else expectOp ":"

/-- An expression with an optional target. -/
def withItem (n : Nat) : Reader (List Tree) := do
  let a ← expression n
  if ← acceptWord "as" then
    let b ← starOperand n
    checkTarget .assigned b
    return [a, b]
  return [a]

/-- Items of a `with` statement; in brackets, a last comma may precede the closing one. -/
def withItems : Nat → Bool → Reader (List Tree)
  | 0, _ => unexpected
  | n + 1, bracketed => do
    let a ← withItem n
    if ← acceptOp "," then
      if bracketed && (← atOp ")") then return a
      return a ++ (← withItems n bracketed)
    return a

def withHeader (n : Nat) : Reader (List Tree) := do
  let bracketed : Reader (List Tree) := do
    expectOp "("
    let items ← withItems n true
    expectOp ")"
    blockColon false
    return items
  let open' : Reader (List Tree) := do
    let items ← withItems n false
    blockColon false
    return items
  if ← atOp "(" then either bracketed open' else open'

mutual

/-- The statements of a block: on the same line, or indented below the one that opens it. -/
def block : Nat → String → Nat → Reader (List Tree)
  | 0, _, _ => unexpected
  | n + 1, after, line => do
    if (← peek).kind != .newline then simpleStatements n
    else
      discard next
      if (← peek).kind != .indent then stopHere (.expectedBlock after line)
      discard next
      let ts ← statements n
      if (← peek).kind != .dedent then unexpected
      discard next
      return ts

/-- Statements up to the end of a block or of the script. -/
def statements : Nat → Reader (List Tree)
  | 0 => unexpected
  | n + 1 => do
    let ts ← statement n
    let t ← peek
    if t.kind == .dedent || t.kind == .finish then return ts
    return ts ++ (← statements n)

def statement : Nat → Reader (List Tree)
  | 0 => unexpected
  | n + 1 => do
    let t ← peek
    if t.isOp "@" then return [← decorated n]
    if t.kind != .name then simpleStatements n
    else match t.text with
      | "def" | "class" | "if" | "while" | "for" | "try" | "with" => return [← compound n]
      | "async" => return [← asynchronous n]
      | "match" => either (List.singleton <$> matchStatement n) (simpleStatements n)
      | _ => simpleStatements n

/-- Decorators and the function or class below them. -/
def decorated : Nat → Reader Tree
  | 0 => unexpected
  | n + 1 => do
    let t ← next
    let a ← named n
    if (← peek).kind != .newline then unexpected
    discard next
    let u ← peek
    let below ← if u.isOp "@" then decorated n
      else if u.isWord "def" || u.isWord "class" then compound n
      else if u.isWord "async" then
        match ← peekSecond with
        | some v =>
          if v.isWord "def" then asynchronous n
          else
            discard next
            unexpected
        | none => unexpected
      else unexpected
    return statementOf t [a, below]

def asynchronous : Nat → Reader Tree
  | 0 => unexpected
  | n + 1 => do
    discard next
    let t ← peek
    if t.isWord "def" || t.isWord "for" || t.isWord "with" then compound n else unexpected

def compound : Nat → Reader Tree
  | 0 => unexpected
  | n + 1 => do
    let t ← next
    match t.text with
    | "def" => functionRest n t
    | "class" => classRest n t
    | "if" => return statementOf t (← conditional n t "'if' statement")
    | "while" =>
      let a ← named n
      blockColon false
      let body ← block n "'while' statement" t.line
      return statementOf t (a :: body ++ (← elseBlock n))
    | "for" =>
      let targets ← loopTargets n
      expectWord "in"
      let source ← starExpressions n
      blockColon true
      let body ← block n "'for' statement" t.line
      return statementOf t (targets :: source :: body ++ (← elseBlock n))
    | "try" => tryRest n t
    | _ =>
      let items ← withHeader n
      return statementOf t (items ++ (← block n "'with' statement" t.line))

def functionRest : Nat → Token → Reader Tree
  | 0, _ => unexpected
  | n + 1, t => do
    discard freeName
    requireOp "("
    let parts ← parameters n true {}
    expectOp ")"
    let type ← if ← acceptOp "->" then List.singleton <$> expression n else pure []
    blockColon true
    return statementOf t (parts ++ type ++ (← block n "function definition" t.line))

def classRest : Nat → Token → Reader Tree
  | 0, _ => unexpected
  | n + 1, t => do
    discard freeName
    let args ← if ← acceptOp "(" then do
        let args ← arguments n {}
        expectOp ")"
        pure args
      else pure []
    blockColon false
    return statementOf t (args ++ (← block n "class definition" t.line))

/-- The rest of an `if` or `elif`, with all that belongs to it. -/
def conditional : Nat → Token → String → Reader (List Tree)
  | 0, _, _ => unexpected
  | n + 1, t, what => do
    let a ← named n
    blockColon false
    let body ← block n what t.line
    let u ← peek
    if u.isWord "elif" then
      discard next
      return a :: body ++ (← conditional n u "'elif' statement")
    return a :: body ++ (← elseBlock n)

def elseBlock : Nat → Reader (List Tree)
  | 0 => return []
  | n + 1 => do
    let t ← peek
    if ← acceptWord "else" then
      blockColon true
      block n "'else' statement" t.line
    else return []

def finallyBlock : Nat → Reader (List Tree)
  | 0 => return []
  | n + 1 => do
    let t ← peek
    if ← acceptWord "finally" then
      blockColon true
      block n "'finally' statement" t.line
    else return []

def tryRest : Nat → Token → Reader Tree
  | 0, _ => unexpected
  | n + 1, t => do
    blockColon true
    let body ← block n "'try' statement" t.line
    if ← atWord "finally" then return statementOf t (body ++ (← finallyBlock n))
    if !(← atWord "except") then stopHere .expectedHandler
    let handlers ← handlers n none
    let otherwise ← elseBlock n
    return statementOf t (body ++ handlers ++ otherwise ++ (← finallyBlock n))

/-- The handlers of a `try`: all for single exceptions, or all for groups of them. -/
def handlers : Nat → Option Bool → Reader (List Tree)
  | 0, _ => return []
  | n + 1, kind => do
    let t ← peek
    if !(← acceptWord "except") then return []
    let group ← acceptOp "*"
    match kind with
    | some k => if k != group then stopHere .mixedHandlers
    | none => pure ()
    let type ← if (← atOp ":") && !group then pure []
      else if (← peek).kind == .newline then stopHere (.expected "':'")
      else do
        let a ← expression n
        if ← atOp "," then stopAtTree a .manyExceptionTypes
        if ← acceptWord "as" then discard freeName
        pure [a]
    blockColon false
    let what := if group then "'except*' statement" else "'except' statement"
    let body ← block n what t.line
    return type ++ body ++ (← handlers n (some group))

def matchStatement : Nat → Reader Tree
  | 0 => unexpected
  | n + 1 => do
    let t ← next
    let start ← peek
    let a ← starNamed n
    let subject ← if ← acceptOp "," then do
        let others ← starNamedItems n ":"
        pure (place start .tuple (a :: others))
      else pure a
    if subject.form == .starred then unexpected
    blockColon false
    if (← peek).kind != .newline then unexpected
    discard next
    if (← peek).kind != .indent then stopHere (.expectedBlock "'match' statement" t.line)
    discard next
    let cs ← cases n
    if cs.isEmpty || (← peek).kind != .dedent then unexpected
    discard next
    return statementOf t (subject :: cs)

def cases : Nat → Reader (List Tree)
  | 0 => return []
  | n + 1 => do
    let t ← peek
    if !(← acceptWord "case") then return []
    let patterns ← casePatterns n
    let guard ← if ← acceptWord "if" then List.singleton <$> named n else pure []
    blockColon false
    let body ← block n "'case' statement" t.line
    return statementOf t (patterns ++ guard ++ body) :: (← cases n)

end

/-- A whole script. -/
def script (n : Nat) : Reader Tree := do
  let t ← peek
  let ts ← if t.kind == .finish then pure [] else statements n
  if (← peek).kind != .finish then unexpected
  return other t "script" ts

/-- The error to report for a stop. A failure of scanning further on counts more, if it is certain;
and so does a bracket that is never closed, if it was opened on an earlier line. A wrong
indentation counts before all. -/
def Stop.report (e : Stop) (failure : Option ScanFailure) : Error :=
  if e.scanning || e.error.flaw == .unexpectedIndent || e.error.flaw == .unexpectedDedent then
    e.error
  else match failure with
    | none => e.error
    | some f =>
      if f.certain then f.error
      else match f.innermost with
        | some b =>
          if e.reached > b.line then ⟨.neverClosed b.opening, b.line, b.column + 1⟩ else e.error
        | none => e.error

/-- The tree of a text. The number of characters bounds how deeply readers call each other. -/
def parse (text : String) : Except Error Tree :=
  let tokens := scan text.toList
  match (script (64 * (text.length + 2))).run (Reader.ofTokens tokens) with
  | .ok (t, _) => .ok t
  | .error e => .error (e.report tokens.failure)

end PuzzleWorlds.Script
