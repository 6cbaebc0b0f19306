import PuzzleWorlds.Event
import PuzzleWorlds.Executor.Report

/-! What a run on the executor comes to. The events in its output are applied to the registry, and
the report decides whether they are the whole trace or what was done before an error. -/

namespace PuzzleWorlds.Executor

def accepted : Value := 3
def timeLimit : Value := 5
def compileError : Value := 6

/-- The last line of a text that is not blank. -/
def lastLine (s : String) : String :=
  match (splitLines (strip s)).filter (fun l => !(strip l).isEmpty) |>.getLast? with
  | some l => strip l
  | none => s

/-- The numbers that follow the word for a line in a text, as their digits. -/
def lineNumerals : List Char → List (List Char)
  | [] => []
  | c :: cs =>
    match "line ".toList.isPrefixOf (c :: cs), numeral (cs.drop 4) with
    | true, d :: ds => (d :: ds) :: lineNumerals cs
    | _, _ => lineNumerals cs
where
  numeral (cs : List Char) : List Char := cs.takeWhile fun c => (digitValue? c).isSome

/-- The line of a script that a text speaks of last; `offset` lines stand before the script. -/
def locate (text : Value) (offset : Int) : Except Misfit (Option Location) :=
  match text with
  | .text s =>
    match (lineNumerals s.toList).getLast? with
    | none => .ok none
    | some ds =>
      if ds.length > maxNumeralDigits then .error (.longNumeral ds.length)
      else
        let line := (digitsValue (asciiDigits ds) : Int) - offset
        .ok (if line ≥ 1 then some { line := some line } else none)
  | v => .error (.notText v.typeName)

/-- Whether a part stands somewhere in a text. -/
def occurs (part : List Char) : List Char → Bool
  | [] => part.isEmpty
  | c :: cs => part.isPrefixOf (c :: cs) || occurs part cs

/-- Whether an error output tells of a script that could not be read. -/
def isSyntaxError (stderr : String) : Bool :=
  ["SyntaxError:", "IndentationError:", "TabError:"].any fun name =>
    occurs name.toList stderr.toList

def failure (kind : DiagnosticKind) (message : String) : Outcome :=
  .failed { kind, message } []

/-- What is known once the report has been read: its texts and what they mean. -/
structure Findings where
  statusId : Value
  description : Value
  stdout : String
  stderr : String
  compileOutput : String
  message : Value
  exitCode : Value

namespace Findings

def ofReport (r : Report) : Except Misfit Findings := do
  let status ← r.status
  let statusId := (Value.lookup status "id").getD .null
  let description := ((Value.lookup status "description").getD .null).orElse
    (.text s!"status {statusId.display}")
  let stderr ← r.text "stderr" "strip"
  let compileOutput ← r.text "compile_output" "strip"
  let stdout ← r.text "stdout" "splitlines"
  return {
    statusId, description, stdout
    stderr := strip stderr
    compileOutput := strip compileOutput
    message := r.get "message"
    exitCode := r.get "exit_code" }

/-- Whether the script could not be read. -/
def isUnread (f : Findings) : Bool := f.statusId == compileError || isSyntaxError f.stderr

/-- Whether the program ended in an error although it was read and stopped in time. -/
def isFailure (f : Findings) : Bool :=
  f.statusId != accepted || !f.stderr.isEmpty ||
    !(f.exitCode.isNull || f.exitCode == 0)

/-- What is said of a script that could not be read. -/
def unreadDetail (f : Findings) : Value :=
  (Value.text f.compileOutput).orElse ((Value.text f.stderr).orElse f.description)

/-- What is said of a program that ended in an error. -/
def failureDetail (f : Findings) : Value :=
  (Value.text f.stderr).orElse (f.message.orElse f.description)

end Findings

/-- The failure that a detail tells of, at the line that it speaks of. -/
def told (kind : DiagnosticKind) (detail : Value) (p : Submission) (trace : Trace)
    (output : List String) : Except Misfit Outcome :=
  (locate detail p.lineOffset).map fun location =>
    .failed { kind, message := lastLine detail.display, location, partialTrace := trace } output

/-- What is told of a refused event. -/
def refusal (f : Fault) (trace : Trace) : Diagnostic :=
  if f.kind == .budgetExceeded then { kind := .timeout, message := f.message }
  else { kind := .runtimeError, message := f.message, partialTrace := trace }

namespace Findings

/-- The outcome of a program that did not run to an end of its own, whatever it printed. -/
def early? (f : Findings) (p : Submission) (output : List String) :
    Option (Except Misfit Outcome) :=
  if f.statusId == timeLimit then
    let message := s!"The program took too long ({f.description.display})"
    some (.ok (.failed { kind := .timeout, message } output))
  else if f.isUnread then some (told .compileError f.unreadDetail p [] output)
  else none

/-- The outcome of a program whose events came to `applied` and left a trace. -/
def conclude (f : Findings) (p : Submission) (output : List String) (trace : Trace) :
    Except Fault Unit → Except Misfit Outcome
  | .error (.misfit m) => .error m
  | .error fault =>
    if fault.writable then .ok (.failed (refusal fault trace) output) else .error .unwritable
  | .ok () =>
    if f.isFailure then told .runtimeError f.failureDetail p trace output
    else .ok (.finished trace output)

end Findings

variable {d : Domain}

/-- The outcome that a report describes, and the registry as it is left. -/
def interpretIn (p : Submission) (report : Report) (r : Registry d) :
    Except Misfit Outcome × Registry d :=
  match Findings.ofReport report with
  | .error m => (.error m, r)
  | .ok f =>
    let (events, output) := Event.ofOutput f.stdout
    match f.early? p output with
    | some outcome => (outcome, r)
    | none =>
      let (applied, r) := r.applyEvents events
      (f.conclude p output r.trace applied, r)

def interpret (p : Submission) (report : Report) (r : Registry d) : Except Misfit Outcome :=
  (interpretIn p report r).1

/-- The seconds that the executor may take. -/
def seconds (timeoutMs : Int) : Float :=
  (Binary.nearest? (timeoutMs < 0) timeoutMs.natAbs 1000).getD (1.0 / 0.0)

def tooLate (timeoutMs : Int) : Outcome :=
  failure .timeout s!"The program did not finish within {amountText (seconds timeoutMs)} seconds"

/-- The outcome of a submission that is never sent: it is in another language, or there is no time
for an answer. -/
def refusal? (p : Submission) (timeoutMs : Int) : Option Outcome :=
  if p.languageId != Script.languageId then
    some (failure .compileError
      s!"Language {intText p.languageId} is not supported by the executor")
  else if timeoutMs ≤ 0 then some (tooLate timeoutMs)
  else none

/-- The outcome of a submission that was sent and got a reply, and the registry as it is left. -/
def settleIn (s : Settings) (timeoutMs : Int) (p : Submission) (reply : Reply) (r : Registry d) :
    Except Misfit Outcome × Registry d :=
  match reply with
  | .late _ => (.ok (tooLate timeoutMs), r)
  | .unreachable reason =>
    (.ok (failure .sandboxUnavailable s!"Code runner is unreachable: {reason}"), r)
  | .answered status body =>
    if status ≥ 400 then
      (.ok (failure .sandboxUnavailable s!"Code runner answered with HTTP {intText status}"), r)
    else match Report.ofBody s.encoded body with
      | .error e =>
        (.ok (failure .sandboxUnavailable s!"Code runner sent an unreadable answer: {e.message}"), r)
      | .ok report => interpretIn p report r

def settle (s : Settings) (timeoutMs : Int) (p : Submission) (reply : Reply) (r : Registry d) :
    Except Misfit Outcome :=
  (settleIn s timeoutMs p reply r).1

/-- Whether a reply to the probe shows a healthy executor; none if the probe itself ran out of
time. -/
def isHealthy : Reply → Option Bool
  | .answered status _ => some (status == 200)
  | .unreachable _ => some false
  | .late cutOff => if cutOff then none else some false

end PuzzleWorlds.Executor
