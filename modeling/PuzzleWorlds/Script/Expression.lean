import PuzzleWorlds.Script.Reader
import PuzzleWorlds.Script.Literal

/-! Expressions of scripts, from conditionals down to names, literals and displays. The first
argument of every reader bounds the depth of its calls. -/

namespace PuzzleWorlds.Script

open Reader

def other (t : Token) (what : String) (children : List Tree) : Tree :=
  place t (.other what) children

/-- Operators between two operands, from the loosest to the tightest. -/
def binaryOps : List (List String) :=
  [["|"], ["^"], ["&"], ["<<", ">>"], ["+", "-"], ["*", "/", "//", "%", "@"]]

def comparisonOps : List String := ["==", "!=", "<=", "<", ">=", ">"]

/-- The comparison operator that comes next, if any. -/
def comparisonOp? : Reader (Option String) := do
  let t ← peek
  if t.kind == .op && comparisonOps.contains t.text then
    discard next
    return some t.text
  if t.isWord "in" then
    discard next
    return some "in"
  if t.isWord "is" then
    discard next
    return some (if ← acceptWord "not" then "is not" else "is")
  if t.isWord "not" then
    match ← peekSecond with
    | some u =>
      if u.isWord "in" then
        discard next
        discard next
        return some "not in"
      return none
    | none => return none
  return none

/-- The name of a statement that was once written without parentheses. -/
def legacyName? (t : Tree) : Option String :=
  match t.form with
  | .name id => if id == "print" || id == "exec" then some id else none
  | _ => none

/-- Whether a clause of a comprehension comes next. -/
def atClause : Reader Bool := do
  let t ← peek
  if t.isWord "for" then return true
  if t.isWord "async" then
    match ← peekSecond with
    | some u => return u.isWord "for"
    | none => return false
  return false

/-- Stops at the first part of a target that cannot be one. -/
def checkTarget (use : Tree.Use) (t : Tree) : Reader Unit :=
  match t.badTarget? use with
  | none => pure ()
  | some bad =>
    stopAtTree bad (if use == .deleted then .notDeletable bad.form.what
      else .notTarget bad.form.what)

/-- A starred tree stands where none may. -/
def refuseStarred (t : Tree) (f : Flaw) : Reader Unit :=
  if t.form == .starred then stopAtTree t f else pure ()

/-- An item needs something between its brackets; without, they are a list after `a`. -/
def refuseEmptyItem (a : Tree) : Reader Unit := do
  match ← peekSecond with
  | some u =>
    if u.isOp "]" then
      if u.depth > 0 && (← get).helpful then stopAtTree a .forgottenComma
      discard next
      unexpected
  | none => return

/-- The state while arguments are read: what was met so far. -/
structure ArgumentsSeen where
  first : Option Tree := none
  keyword : Bool := false
  double : Bool := false

namespace ArgumentsSeen

def add (s : ArgumentsSeen) (t : Tree) : ArgumentsSeen := { s with first := s.first.or (some t) }

end ArgumentsSeen

/-- The state while parameters are read. A bare star must be followed by a name. -/
structure ParametersSeen where
  any : Bool := false
  slash : Bool := false
  star : Bool := false
  bareStar : Bool := false
  default : Bool := false
  double : Bool := false

/-- Whether texts and bytes stand side by side. -/
def mixesBytes (ls : List Literal) : Bool := ls.any (·.bytes) && ls.any fun l => !l.bytes

mutual

/-- A conditional, a lambda or a disjunction. -/
def expression : Nat → Reader Tree
  | 0 => unexpected
  | n + 1 => do
    let start ← peek
    if start.isWord "lambda" then lambda n
    else
      let second ← if start.isFreeName then peekSecond else pure none
      let a ← disjunction n
      if ← atWord "if" then
        return ← further a do
          discard next
          let c ← disjunction n
          if ← acceptWord "else" then
            return other start "conditional expression" [a, c, ← expression n]
          if ← atOp ":" then unexpected
          stopAtTree a .expectedElse
      checkNeighbour n start second a
      return a

/-- After an expression `a` another one may not follow. Inside brackets a comma is missing then. -/
def checkNeighbour : Nat → Token → Option Token → Tree → Reader Unit
  | 0, _, _, _ => pure ()
  | n + 1, start, second, a => do
    let t ← peek
    if !(← get).helpful || !t.startsExpression then return
    let isPrefix := match second with
      | some u => u.kind == .text
      | none => false
    match legacyName? a with
    | some id =>
      if start.isWord id && (← soundly (starExpressions n)) then
        stopAtTree a (.missingParentheses id)
      return
    | none => pure ()
    if ["match", "case", "_"].contains start.text || isPrefix then return
    modify fun s => { s with helpful := false }
    let found ← succeeds (expression n)
    modify fun s => { s with helpful := true }
    match found with
    | some (_, some last) => if last.depth > 0 then stopAtTree a .forgottenComma
    | _ => return

def disjunction : Nat → Reader Tree
  | 0 => unexpected
  | n + 1 => do
    let start ← peek
    let a ← conjunction n
    if ← atWord "or" then
      further a do
        return other start "expression" (a :: (← afterWord n "or" (conjunction n)))
    else return a

def conjunction : Nat → Reader Tree
  | 0 => unexpected
  | n + 1 => do
    let start ← peek
    let a ← inversion n
    if ← atWord "and" then
      further a do
        return other start "expression" (a :: (← afterWord n "and" (inversion n)))
    else return a

/-- Operands that each follow a word. -/
def afterWord : Nat → String → Reader Tree → Reader (List Tree)
  | 0, _, _ => return []
  | n + 1, word, operand => do
    if ← acceptWord word then
      let a ← operand
      return a :: (← afterWord n word operand)
    return []

def inversion : Nat → Reader Tree
  | 0 => unexpected
  | n + 1 => do
    let start ← peek
    if ← acceptWord "not" then return other start "expression" [← inversion n]
    comparison n

def comparison : Nat → Reader Tree
  | 0 => unexpected
  | n + 1 => do
    let start ← peek
    let a ← operand n
    further a do
      match ← comparisonOp? with
      | none => return a
      | some op =>
        let b ← operand n
        return place start (.comparison op) (a :: b :: (← comparisons n))

def comparisons : Nat → Reader (List Tree)
  | 0 => return []
  | n + 1 => do
    match ← comparisonOp? with
    | none => return []
    | some _ =>
      let a ← operand n
      return a :: (← comparisons n)

/-- What stands between comparison operators. -/
def operand : Nat → Reader Tree
  | 0 => unexpected
  | n + 1 => binary n binaryOps

/-- Operands of operators of the given levels. -/
def binary : Nat → List (List String) → Reader Tree
  | 0, _ => unexpected
  | n + 1, [] => factor n
  | n + 1, ops :: tighter => do
    let start ← peek
    let a ← binary n tighter
    binaryRest n start ops tighter a

def binaryRest : Nat → Token → List String → List (List String) → Tree → Reader Tree
  | 0, _, _, _, a => return a
  | n + 1, start, ops, tighter, a => do
    let t ← peek
    if t.kind == .op && ops.contains t.text then
      further a do
        discard next
        let b ← binary n tighter
        binaryRest n start ops tighter (other start "expression" [a, b])
    else return a

def factor : Nat → Reader Tree
  | 0 => unexpected
  | n + 1 => do
    let t ← peek
    if t.isOp "+" || t.isOp "-" || t.isOp "~" then
      discard next
      return other t "expression" [← factor n]
    let a ← awaited n
    if ← atOp "**" then
      further a do
        discard next
        return other t "expression" [a, ← factor n]
    else return a

def awaited : Nat → Reader Tree
  | 0 => unexpected
  | n + 1 => do
    let t ← peek
    if ← acceptWord "await" then return other t "await expression" [← primary n]
    primary n

def primary : Nat → Reader Tree
  | 0 => unexpected
  | n + 1 => do
    let start ← peek
    primaryRest n start (← atom n)

/-- Members, calls and items of something. -/
def primaryRest : Nat → Token → Tree → Reader Tree
  | 0, _, a => return a
  | n + 1, start, a => do
    further a do
      if ← acceptOp "." then
        let name ← freeName
        primaryRest n start (place start (.member name.text) [a])
      else if ← acceptOp "(" then
        let args ← arguments n {}
        expectOp ")"
        primaryRest n start (place start .call (a :: args))
      else if ← atOp "[" then
        refuseEmptyItem a
        discard next
        let parts ← slices n
        expectOp "]"
        primaryRest n start (place start .item (a :: parts))
      else return a

def atom : Nat → Reader Tree
  | 0 => unexpected
  | n + 1 => do
    let t ← peek
    match t.kind with
    | .name =>
      if t.isFreeName then
        discard next
        return place t (.name t.text) []
      if ["True", "False", "None"].contains t.text then
        discard next
        return other t t.text []
      unexpected
    | .number =>
      discard next
      return other t "literal" []
    | .text => texts n
    | .op =>
      match t.text with
      | "(" => parenthesized n
      | "[" => listDisplay n
      | "\x7b" => braced n
      | "..." =>
        discard next
        return other t "ellipsis" []
      | _ => unexpected
    | _ => unexpected

/-- Adjacent text literals, with the expressions in their fields. -/
def texts : Nat → Reader Tree
  | 0 => unexpected
  | n + 1 => do
    let t ← peek
    let literals ← textTokens n
    if mixesBytes literals then stopHere .mixedText
    let parts ← literalParts n literals
    return other t (if literals.any (·.formatted) then "f-string expression" else "literal") parts

def textTokens : Nat → Reader (List Literal)
  | 0 => return []
  | n + 1 => do
    let t ← peek
    if t.kind != .text then return []
    discard next
    return .ofToken t :: (← textTokens n)

def literalParts : Nat → List Literal → Reader (List Tree)
  | 0, _ => return []
  | _ + 1, [] => return []
  | n + 1, l :: rest => do
    match l.flaw? with
    | some f => stopHere f
    | none => pure ()
    match l.fields with
    | .error f => stopHere f
    | .ok fields =>
      let parts ← fieldParts n fields
      return parts ++ (← literalParts n rest)

/-- The expression of each field, read as if it stood in parentheses. -/
def fieldParts : Nat → List Field → Reader (List Tree)
  | 0, _ => return []
  | _ + 1, [] => return []
  | n + 1, f :: rest => do
    let tokens := scan ('(' :: f.text ++ [')']) f.line
    match (starExpressions n).run (Reader.ofTokens tokens) with
    | .error e => throw { e with left := (← get).tokens.length, scanning := false }
    | .ok (t, _) => return t :: (← fieldParts n rest)

/-- After an opening parenthesis: nothing, a group, a tuple or a generator. -/
def parenthesized : Nat → Reader Tree
  | 0 => unexpected
  | n + 1 => do
    let t ← next
    if ← acceptOp ")" then return place t .tuple []
    if ← atWord "yield" then
      let a ← yieldExpression n
      expectOp ")"
      return a
    let a ← starNamed n
    if ← atClause then
      refuseStarred a .starredInComprehension
      let cs ← clauses n
      expectOp ")"
      return other t "generator expression" (a :: cs)
    if ← acceptOp "," then
      let others ← starNamedItems n ")"
      expectOp ")"
      return place t .tuple (a :: others)
    if ← atOp ")" then refuseStarred a .starredHere
    expectOp ")"
    return a

def listDisplay : Nat → Reader Tree
  | 0 => unexpected
  | n + 1 => do
    let t ← next
    if ← acceptOp "]" then return place t .list []
    let a ← starNamed n
    if ← atClause then
      refuseStarred a .starredInComprehension
      let cs ← clauses n
      expectOp "]"
      return other t "list comprehension" (a :: cs)
    let others ← if ← acceptOp "," then starNamedItems n "]" else pure []
    expectOp "]"
    return place t .list (a :: others)

/-- After an opening brace: a dictionary or a set, or the comprehension of one. -/
def braced : Nat → Reader Tree
  | 0 => unexpected
  | n + 1 => do
    let t ← next
    if ← acceptOp "\x7d" then return other t "dict literal" []
    if ← atOp "**" then
      let parts ← dictItems n
      expectOp "\x7d"
      return other t "dict literal" parts
    let u ← peek
    let a ← starNamed n
    let isBinding := u.isFreeName && a.form.what == "named expression"
    if (← atOp ":") && a.form != .starred && !isBinding then
      let v ← dictValue n
      if ← atClause then
        let cs ← clauses n
        expectOp "\x7d"
        return other t "dict comprehension" (a :: v :: cs)
      let others ← if ← acceptOp "," then dictItems n else pure []
      expectOp "\x7d"
      return other t "dict literal" (a :: v :: others)
    if ← atClause then
      refuseStarred a .starredInComprehension
      let cs ← clauses n
      expectOp "\x7d"
      return other t "set comprehension" (a :: cs)
    let others ← if ← acceptOp "," then starNamedItems n "\x7d" else pure []
    expectOp "\x7d"
    return other t "set display" (a :: others)

/-- A colon and the value of a dictionary's key. -/
def dictValue : Nat → Reader Tree
  | 0 => unexpected
  | n + 1 => do
    let t ← next
    if (← atOp "\x7d") || (← atOp ",") then stopAtToken t .keyWithoutValue
    expression n

/-- The items of a dictionary up to its closing brace. -/
def dictItems : Nat → Reader (List Tree)
  | 0 => return []
  | n + 1 => do
    if ← atOp "\x7d" then return []
    let parts ← if ← acceptOp "**" then List.singleton <$> operand n
      else do
        let k ← expression n
        if !(← atOp ":") then stopAtTree k .keyWithoutValue
        pure [k, ← dictValue n]
    if ← acceptOp "," then return parts ++ (← dictItems n)
    return parts

/-- The clauses of a comprehension. -/
def clauses : Nat → Reader (List Tree)
  | 0 => return []
  | n + 1 => do
    if !(← atClause) then return []
    discard (acceptWord "async")
    discard next
    let targets ← loopTargets n
    expectWord "in"
    let source ← disjunction n
    let conditions ← afterWord n "if" (disjunction n)
    return targets :: source :: conditions ++ (← clauses n)

/-- The targets of a loop, up to the word `in`. -/
def loopTargets : Nat → Reader Tree
  | 0 => unexpected
  | n + 1 => do
    let t ← peek
    let a ← starOperand n
    let targets ← if ← acceptOp "," then do
        let others ← starOperands n
        pure (place t .tuple (a :: others))
      else pure a
    checkTarget .looped targets
    return targets

def starOperand : Nat → Reader Tree
  | 0 => unexpected
  | n + 1 => do
    let t ← peek
    if ← acceptOp "*" then return place t .starred [← operand n]
    operand n

/-- Targets after a comma; the last comma may be followed by `in`. -/
def starOperands : Nat → Reader (List Tree)
  | 0 => return []
  | n + 1 => do
    if ← atWord "in" then return []
    let a ← starOperand n
    if ← acceptOp "," then return a :: (← starOperands n)
    return [a]

/-- An expression that may bind a name. -/
def named : Nat → Reader Tree
  | 0 => unexpected
  | n + 1 => do
    let t ← peek
    if t.isFreeName then
      match ← peekSecond with
      | some u =>
        if u.isOp ":=" then
          discard next
          discard next
          return other t "named expression" [place t (.name t.text) [], ← expression n]
      | none => pure ()
    let a ← expression n
    if ← atOp ":=" then stopAtTree a (.notNameable a.form.what)
    return a

def starNamed : Nat → Reader Tree
  | 0 => unexpected
  | n + 1 => do
    let t ← peek
    if ← acceptOp "*" then return place t .starred [← operand n]
    let a ← named n
    if (← atOp "=") && a.form != .tuple && a.form != .list then
      if (← succeeds (comparedTo n)).isSome then stopAtTree a .equalsInExpression
    return a

/-- An equals sign and what is compared by it, if no other sign follows. -/
def comparedTo : Nat → Reader Unit
  | 0 => unexpected
  | n + 1 => do
    discard next
    discard (operand n)
    if (← atOp "=") || (← atOp ":=") then unexpected

/-- Items of a display up to its closing bracket. -/
def starNamedItems : Nat → String → Reader (List Tree)
  | 0, _ => return []
  | n + 1, closing => do
    if ← atOp closing then return []
    let a ← starNamed n
    if ← acceptOp "," then return a :: (← starNamedItems n closing)
    return [a]

def starExpression : Nat → Reader Tree
  | 0 => unexpected
  | n + 1 => do
    let t ← peek
    if ← acceptOp "*" then return place t .starred [← operand n]
    expression n

/-- One expression, or several as a tuple. -/
def starExpressions : Nat → Reader Tree
  | 0 => unexpected
  | n + 1 => do
    let t ← peek
    let a ← starExpression n
    if ← acceptOp "," then return place t .tuple (a :: (← starExpressionItems n))
    return a

/-- Expressions after a comma, which may be the last thing. -/
def starExpressionItems : Nat → Reader (List Tree)
  | 0 => return []
  | n + 1 => do
    let t ← peek
    if !(t.startsExpression || t.isOp "*") then return []
    let a ← starExpression n
    if ← acceptOp "," then return a :: (← starExpressionItems n)
    return [a]

def yieldExpression : Nat → Reader Tree
  | 0 => unexpected
  | n + 1 => do
    let t ← next
    if ← acceptWord "from" then return other t "yield expression" [← expression n]
    let u ← peek
    if u.startsExpression || u.isOp "*" then
      return other t "yield expression" [← starExpressions n]
    return other t "yield expression" []

/-- The arguments of a call up to its closing parenthesis. -/
def arguments : Nat → ArgumentsSeen → Reader (List Tree)
  | 0, _ => return []
  | n + 1, seen => do
    let t ← peek
    if t.isOp ")" then return []
    let (a, seen) ← argument n seen
    if ← acceptOp "," then return a :: (← arguments n seen)
    return [a]

def argument : Nat → ArgumentsSeen → Reader (Tree × ArgumentsSeen)
  | 0, _ => unexpected
  | n + 1, seen => do
    let before := (← get).last
    let t ← peek
    if ← acceptOp "*" then
      let a := place t .starred [← expression n]
      if seen.double then stopAtToken (before.getD t) .starredAfterDouble
      return (a, seen.add a)
    if ← acceptOp "**" then
      let a := other t "expression" [← expression n]
      return (a, { seen.add a with keyword := true, double := true })
    let second ← if t.isFreeName || ["True", "False", "None"].any t.isWord then peekSecond
      else pure none
    let isKeyword := match second with
      | some u => u.isOp "="
      | none => false
    if isKeyword then
      if !t.isFreeName then stopHere (.notTarget t.text)
      discard next
      discard next
      let value ← expression n
      if ← atClause then stopAtToken t .equalsInExpression
      return (value, { seen.add (place t (.name t.text) []) with keyword := true })
    let a ← named n
    if ← atOp "=" then stopAtTree a .assignmentInArgument
    if ← atClause then
      let cs ← clauses n
      if seen.first.isSome || !(← atOp ")") then stopAtTree a .bareGenerator
      let g := other t "generator expression" (a :: cs)
      return (g, seen.add g)
    if seen.keyword then stopHere .positionalAfterKeyword
    return (a, seen.add a)

/-- What stands between the brackets of an item. -/
def slices : Nat → Reader (List Tree)
  | 0 => unexpected
  | n + 1 => do
    let a ← slice n
    if ← acceptOp "," then
      if ← atOp "]" then return a
      return a ++ (← slices n)
    return a

def slice : Nat → Reader (List Tree)
  | 0 => unexpected
  | n + 1 => do
    if ← atOp "*" then return [← starNamed n]
    let first ← if ← atOp ":" then pure [] else List.singleton <$> named n
    if ← acceptOp ":" then
      let second ← sliceBound n
      let third ← if ← acceptOp ":" then sliceBound n else pure []
      return first ++ second ++ third
    return first

def sliceBound : Nat → Reader (List Tree)
  | 0 => return []
  | n + 1 => do
    if (← peek).startsExpression then return [← expression n]
    return []

def lambda : Nat → Reader Tree
  | 0 => unexpected
  | n + 1 => do
    let t ← next
    let defaults ← parameters n false {}
    requireOp ":"
    return other t "lambda" (defaults ++ [← expression n])

/-- The parameters of a function up to the end of their list, with the expressions in them. Types
are read only when `typed` is set. -/
def parameters : Nat → Bool → ParametersSeen → Reader (List Tree)
  | 0, _, _ => return []
  | n + 1, typed, seen => do
    let t ← peek
    if t.isOp (if typed then ")" else ":") then
      if seen.bareStar then stopHere .badParameters
      return []
    let (parts, seen) ← parameter n typed seen
    if ← acceptOp "," then return parts ++ (← parameters n typed seen)
    if seen.bareStar then stopHere .badParameters
    return parts

def parameter : Nat → Bool → ParametersSeen → Reader (List Tree × ParametersSeen)
  | 0, _, _ => unexpected
  | n + 1, typed, seen => do
    let t ← peek
    if seen.double then stopHere .badParameters
    if ← acceptOp "/" then
      if seen.slash || seen.star || !seen.any then stopAtToken t .badParameters
      return ([], { seen with slash := true })
    if ← acceptOp "**" then
      discard freeName
      let type ← parameterType n typed false
      if ← atOp "=" then stopHere .badParameters
      return (type, { seen with any := true, double := true, bareStar := false })
    if ← acceptOp "*" then
      if seen.star then stopAtToken t .badParameters
      if (← peek).isFreeName then
        discard next
        let type ← parameterType n typed true
        if ← atOp "=" then stopHere .badParameters
        return (type, { seen with any := true, star := true })
      if !(← atOp ",") then stopHere .badParameters
      return ([], { seen with star := true, bareStar := true })
    discard freeName
    let type ← parameterType n typed false
    let equals ← peek
    if ← acceptOp "=" then
      if (← atOp ")") || (← atOp ",") then stopAtToken equals .badParameters
      let default ← expression n
      return (type ++ [default], { seen with any := true, default := true, bareStar := false })
    if seen.default && !seen.star then stopAtToken t .badParameters
    return (type, { seen with any := true, bareStar := false })

def parameterType : Nat → Bool → Bool → Reader (List Tree)
  | 0, _, _ => return []
  | n + 1, typed, starred => do
    if ← accept fun t => typed && t.isOp ":" then
      if starred then return [← starExpression n]
      return [← expression n]
    return []

end

end PuzzleWorlds.Script
