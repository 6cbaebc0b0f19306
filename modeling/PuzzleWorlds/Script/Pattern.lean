import PuzzleWorlds.Script.Expression

/-! Patterns of `match` statements. A pattern holds names, literals and members; only a formatted
literal holds expressions, so the trees of the literals are all that is kept. -/

namespace PuzzleWorlds.Script

open Reader

/-- A number with an optional sign, and an imaginary part after it. -/
def numberPattern : Reader Unit := do
  discard (acceptOp "-")
  if (← peek).kind != .number then unexpected
  discard next
  if ← accept fun t => t.isOp "+" || t.isOp "-" then
    if (← peek).kind != .number then unexpected
    discard next

mutual

/-- Alternatives, with an optional name for what they match. -/
def pattern : Nat → Reader (List Tree)
  | 0 => unexpected
  | n + 1 => do
    let ts ← alternatives n
    if ← acceptWord "as" then
      if ← atWord "_" then stopHere .badPattern
      discard freeName
    return ts

def alternatives : Nat → Reader (List Tree)
  | 0 => unexpected
  | n + 1 => do
    let ts ← closedPattern n
    if ← acceptOp "|" then return ts ++ (← alternatives n)
    return ts

def closedPattern : Nat → Reader (List Tree)
  | 0 => unexpected
  | n + 1 => do
    let t ← peek
    match t.kind with
    | .text => return [← texts n]
    | .number =>
      numberPattern
      return []
    | .name =>
      if ["True", "False", "None"].contains t.text then
        discard next
        return []
      discard freeName
      namePattern n
    | .op =>
      match t.text with
      | "-" =>
        numberPattern
        return []
      | "(" => bracketed n ")" (patternItems n ")")
      | "[" => bracketed n "]" (patternItems n "]")
      | "\x7b" => bracketed n "\x7d" (mappingItems n)
      | _ => unexpected
    | _ => unexpected

/-- What stands between an opening bracket, which is next, and its closing one. -/
def bracketed : Nat → String → Reader (List Tree) → Reader (List Tree)
  | 0, _, _ => unexpected
  | _ + 1, closing, content => do
    discard next
    let ts ← content
    expectOp closing
    return ts

/-- The members of a name and the arguments of a class. -/
def namePattern : Nat → Reader (List Tree)
  | 0 => unexpected
  | n + 1 => do
    if ← acceptOp "." then
      discard freeName
      namePattern n
    else if ← atOp "(" then bracketed n ")" (classItems n false)
    else return []

def patternItem : Nat → Reader (List Tree)
  | 0 => unexpected
  | n + 1 => do
    if ← acceptOp "*" then
      discard freeName
      return []
    pattern n

def patternItems : Nat → String → Reader (List Tree)
  | 0, _ => unexpected
  | n + 1, closing => do
    if ← atOp closing then return []
    let ts ← patternItem n
    if ← acceptOp "," then return ts ++ (← patternItems n closing)
    return ts

def mappingItems : Nat → Reader (List Tree)
  | 0 => unexpected
  | n + 1 => do
    if ← atOp "\x7d" then return []
    let ts ← if ← acceptOp "**" then do
        discard freeName
        pure []
      else do
        let key ← mappingKey n
        expectOp ":"
        pure (key ++ (← pattern n))
    if ← acceptOp "," then return ts ++ (← mappingItems n)
    return ts

/-- A key is a literal or a member of something; a name alone is none. -/
def mappingKey : Nat → Reader (List Tree)
  | 0 => unexpected
  | n + 1 => do
    let t ← peek
    if t.kind == .op && !t.isOp "-" then unexpected
    if t.isFreeName then
      match ← peekSecond with
      | some u => if !u.isOp "." then unexpected
      | none => unexpected
    closedPattern n

/-- Arguments of a class pattern: after a keyword only keywords may follow. -/
def classItems : Nat → Bool → Reader (List Tree)
  | 0, _ => unexpected
  | n + 1, keyword => do
    let t ← peek
    if t.isOp ")" then return []
    let second ← if t.isFreeName then peekSecond else pure none
    let isKeyword := match second with
      | some u => u.isOp "="
      | none => false
    if isKeyword then
      discard next
      discard next
    let ts ← pattern n
    if keyword && !isKeyword then stopAtToken t .positionalAfterKeyword
    if ← acceptOp "," then return ts ++ (← classItems n (keyword || isKeyword))
    return ts

end

/-- The patterns of a case, several of them without brackets. -/
def casePatterns : Nat → Reader (List Tree)
  | 0 => unexpected
  | n + 1 => do
    let ts ← patternItem n
    if ← acceptOp "," then
      if (← atOp ":") || (← atWord "if") then return ts
      return ts ++ (← casePatterns n)
    return ts

end PuzzleWorlds.Script
