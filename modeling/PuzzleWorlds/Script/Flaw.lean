import PuzzleWorlds.Number.Notation

/-! What keeps a script from being read. A script is the learner's program as text. -/

namespace PuzzleWorlds.Script

inductive Flaw where
  | invalid
  | expected (what : String)
  | neverClosed (bracket : Char)
  | unmatched (bracket : Char)
  | mismatched (closing opening : Char) (line : Nat) (sameLine : Bool)
  | tooManyBrackets
  | unterminatedText (line : Nat)
  | unterminatedLongText (line : Nat)
  | badNumber (kind : String)
  | longNumber
  | badCharacter (c : Char)
  | afterContinuation
  | endOfScript
  | unexpectedIndent
  | unexpectedDedent
  | noOuterIndent
  | expectedBlock (after : String) (line : Nat)
  | tooManyIndents
  | mixedTabs
  | forgottenComma
  | expectedElse
  | missingParentheses (name : String)
  | notTarget (what : String)
  | notDeletable (what : String)
  | notAugmentable (what : String)
  | notAnnotatable (what : String)
  | notNameable (what : String)
  | equalsInExpression
  | assignmentInArgument
  | bareGenerator
  | positionalAfterKeyword
  | starredAfterDouble
  | starredHere
  | starredInComprehension
  | badParameters
  | keyWithoutValue
  | expectedHandler
  | mixedHandlers
  | manyExceptionTypes
  | trailingComma
  | mixedText
  | badBytes
  | badEscape
  | badField (reason : String)
  | badPattern
deriving DecidableEq, Repr

/-- The families of flaws: in the form of the text, in its indentation, in its use of tabs. -/
inductive FlawFamily where
  | form | indentation | tabs
deriving DecidableEq, Repr

def FlawFamily.name : FlawFamily → String
  | form => "SyntaxError"
  | indentation => "IndentationError"
  | tabs => "TabError"

namespace Flaw

def family : Flaw → FlawFamily
  | unexpectedIndent | unexpectedDedent | noOuterIndent | expectedBlock .. | tooManyIndents =>
    .indentation
  | mixedTabs => .tabs
  | _ => .form

def quotedChar (c : Char) : String := String.ofList ['\'', c, '\'']

def message : Flaw → String
  | invalid => "invalid syntax"
  | expected what => s!"expected {what}"
  | neverClosed c => s!"{quotedChar c} was never closed"
  | unmatched c => s!"unmatched {quotedChar c}"
  | mismatched c o line same =>
    s!"closing parenthesis {quotedChar c} does not match opening parenthesis {quotedChar o}" ++
      if same then "" else s!" on line {natText line}"
  | tooManyBrackets => "too many nested parentheses"
  | unterminatedText n => s!"unterminated string literal (detected at line {natText n})"
  | unterminatedLongText n =>
    s!"unterminated triple-quoted string literal (detected at line {natText n})"
  | badNumber kind => s!"invalid {kind} literal"
  | longNumber => "Exceeds the limit for integer string conversion"
  | badCharacter c => s!"invalid character {quotedChar c}"
  | afterContinuation => "unexpected character after line continuation character"
  | endOfScript => "unexpected EOF while parsing"
  | unexpectedIndent => "unexpected indent"
  | unexpectedDedent => "unexpected unindent"
  | noOuterIndent => "unindent does not match any outer indentation level"
  | expectedBlock after line =>
    s!"expected an indented block after {after} on line {natText line}"
  | tooManyIndents => "too many levels of indentation"
  | mixedTabs => "inconsistent use of tabs and spaces in indentation"
  | forgottenComma => "invalid syntax. Perhaps you forgot a comma?"
  | expectedElse => "expected 'else' after 'if' expression"
  | missingParentheses name =>
    s!"Missing parentheses in call to '{name}'. Did you mean {name}(...)?"
  | notTarget what => s!"cannot assign to {what}"
  | notDeletable what => s!"cannot delete {what}"
  | notAugmentable what => s!"'{what}' is an illegal expression for augmented assignment"
  | notAnnotatable what => s!"only single target (not {what}) can be annotated"
  | notNameable what => s!"cannot use assignment expressions with {what}"
  | equalsInExpression => "invalid syntax. Maybe you meant '==' or ':=' instead of '='?"
  | assignmentInArgument => "expression cannot contain assignment, perhaps you meant \"==\"?"
  | bareGenerator => "Generator expression must be parenthesized"
  | positionalAfterKeyword => "positional argument follows keyword argument"
  | starredAfterDouble =>
    "iterable argument unpacking follows keyword argument unpacking"
  | starredHere => "cannot use starred expression here"
  | starredInComprehension => "iterable unpacking cannot be used in comprehension"
  | badParameters => "invalid parameters"
  | keyWithoutValue => "':' expected after dictionary key"
  | expectedHandler => "expected 'except' or 'finally' block"
  | mixedHandlers => "cannot have both 'except' and 'except*' on the same 'try'"
  | manyExceptionTypes => "multiple exception types must be parenthesized"
  | trailingComma => "trailing comma not allowed without surrounding parentheses"
  | mixedText => "cannot mix bytes and nonbytes literals"
  | badBytes => "bytes can only contain ASCII literal characters"
  | badEscape => "(unicode error) invalid escape"
  | badField reason => s!"f-string: {reason}"
  | badPattern => "patterns may only match literals and attribute lookups"

end Flaw

/-- A flaw with its place: the line and the column are counted from one. -/
structure Error where
  flaw : Flaw
  line : Nat
  column : Nat
deriving DecidableEq, Repr

namespace Error

def message (e : Error) : String := s!"{e.flaw.family.name}: {e.flaw.message}"

end Error

end PuzzleWorlds.Script
