import PuzzleWorlds.CommandLine.Arguments
import PuzzleWorlds.Domain.Catalog
import PuzzleWorlds.Level.Check
import PuzzleWorlds.Level.Packs
import PuzzleWorlds.Session.Table

/-! The commands of the command line: listing levels, checking a level document, and running a
program against a level. -/

namespace PuzzleWorlds.CommandLine

/-- What a command shows: a line of text, or nothing for some seconds. -/
inductive Display where
  | line (text : String)
  | pause (seconds : Float)
deriving Repr

/-- What a command showed, and the status that it ended with. -/
structure Outcome where
  shown : List Display := []
  status : Nat := 0
deriving Repr

/-- The files that a command can see, by name. -/
abbrev Files := List (String × String)

/-- A reason to stop early: a line about it, or none if the program breaks down. -/
structure Halt where
  line : Option String
deriving DecidableEq, Repr

def Halt.because (text : String) : Halt := ⟨some s!"Error: {text}"⟩

def Halt.breakdown : Halt := ⟨none⟩

def lines (texts : List String) : List Display := texts.map .line

def Outcome.after (shown : List Display) (h : Halt) : Outcome :=
  { shown := shown ++ lines h.line.toList, status := 1 }

/-- A text with every kind of line end as one. -/
def unifyLineEnds : List Char → List Char
  | '\r' :: '\n' :: rest => '\n' :: unifyLineEnds rest
  | '\r' :: rest => '\n' :: unifyLineEnds rest
  | c :: rest => c :: unifyLineEnds rest
  | [] => []

def readText (files : Files) (name : String) : Except Halt String :=
  match files.find? fun f => f.1 == name with
  | some f => .ok (String.ofList (unifyLineEnds f.2.toList))
  | none => .error (.because s!"File not found: {name}")

def readJson (files : Files) (name : String) : Except Halt Value := do
  let text ← readText files name
  match Json.read text with
  | .ok v => return v
  | .error f => match f.problem with
    | .longNumeral _ => throw .breakdown
    | _ => throw (.because s!"{name} is not valid JSON: {f.message text}")

/-- A text filled up with blanks, at its end or at its beginning. -/
def padEnd (n : Nat) (s : String) : String := s ++ String.ofList (List.replicate (n - s.length) ' ')

def padStart (n : Nat) (s : String) : String :=
  String.ofList (List.replicate (n - s.length) ' ') ++ s

def domainLine (d : Domain) : String :=
  s!"{padEnd 10 d.name} {d.title} ({natText d.pack.length} levels)"

def levelLine (index : Nat) (h : LevelHeader) : String :=
  s!"{padStart 3 (natText index)}  [{padEnd 6 h.difficulty.name}] {h.name}"

/-- Lists the domains, or the levels of one. -/
def levels (domain : Option String) : Outcome :=
  match domain.filter fun d => !d.isEmpty with
  | none => { shown := lines (Domain.all.map domainLine) }
  | some name => match Domain.ofName? name with
    | some d =>
      { shown := lines (d.pack.zipIdx.map fun l => levelLine l.2 (Domain.Level.header l.1)) }
    | none =>
      let known := Value.joinComma Catalog.standard.names
      .after [] (.because s!"Unknown domain '{name}' (known: {known})")

def findingLines (f : Findings) : List String :=
  f.errors.map (fun e => "  - " ++ e) ++ f.warnings.map fun w => "  ! " ++ w

/-- Checks a level document. -/
def validate (files : Files) (file : String) : Outcome :=
  match readJson files file with
  | .error h => .after [] h
  | .ok document => match loadLevel document with
    | .error f =>
      { shown := lines ("FAIL Level failed to load" :: f.errors.map fun e => "  - " ++ e)
        status := 1 }
    | .ok l =>
      let f := l.validate
      let (mark, word) := if f.valid then ("OK", "valid") else ("FAIL", "invalid")
      let name := (Domain.Level.header l.level).name
      { shown := lines (s!"{mark} {l.domain.name} level '{name}' is {word}" :: findingLines f)
        status := if f.valid then 0 else 1 }

/-- The levels and the position that a level argument names: a file, a domain, or a domain with a
number after a colon. -/
def resolve (files : Files) (target : String) :
    Except Halt (String × Option (List AnyLevel) × Int) := do
  if target.endsWith ".json" then
    match loadLevel (← readJson files target) with
    | .error f => throw (.because f.message)
    | .ok l => return (l.domain.name, some [l], 0)
  let name := String.ofList (target.toList.takeWhile (· != ':'))
  let index := String.ofList ((target.toList.dropWhile (· != ':')).drop 1)
  if (Domain.ofName? name).isNone then throw (.because s!"Unknown domain '{name}'")
  if index.isEmpty then return (name, none, 0)
  match (Value.text index).toInt with
  | .ok n => return (name, none, n)
  | .error _ => throw (.because s!"Level index must be a number, got '{index}'")

/-- Opens a session; a fast one replays without pauses. -/
def openSession (c : Config) (files : Files) (target : String) (fast : Bool) :
    Except Halt AnySession := do
  let (domain, levels, index) ← resolve files target
  let table : SessionTable := { config := c }
  match (table.create domain levels index 0.0).1 with
  | .ok ⟨d, s⟩ =>
    return ⟨d, if fast then { s with scheduler := { s.scheduler with pace := 0 } } else s⟩
  | .error (.fault _) => throw .breakdown
  | .error e => throw (.because e.message)

section

variable {d : Domain}

def stepLine (n : Notice d) : String :=
  let number := padStart 3 (natText (n.index + 1))
  "  " ++ number ++ ". " ++ n.action.describe.toOption.getD ""

/-- The steps of a run with the pauses after them. -/
def steps : List (Notice d) → List Float → List Display
  | [], _ => []
  | n :: ns, [] => .line (stepLine n) :: steps ns []
  | n :: ns, seconds :: rest => .line (stepLine n) :: .pause seconds :: steps ns rest

/-- Where a program stopped: at a line, or in a block. -/
def whereText (l : Location) : String :=
  match l.line.filter (· != 0) with
  | some n => s!" (line {intText n})"
  | none => if l.blockId.truthy then s!" (block {l.blockId.display})" else ""

def diagnosticLine (g : Diagnostic) : String :=
  let place := (g.location.map whereText).getD ""
  s!"FAIL {g.kind.name}{place}: {g.message}"

def resultLines (r : RunResult) : List String :=
  r.output.map (fun l => "  > " ++ l) ++ r.warnings.map (fun w => "  ! " ++ w) ++
    (r.diagnostic.map diagnosticLine).toList

/-- Begins the run of a program, a script or a workspace by the end of its name. -/
def begin (s : Session d) (files : Files) (program : String) :
    Except Halt (Except Fault (Stretch d) × Session d) := do
  if program.endsWith ".py" then
    return s.runSource (← readText files program) Script.languageId 0.0
  else return s.runBlocks (← readJson files program) 0.0

/-- Runs a program in a session and judges the world that it leaves. -/
def runIn (s : Session d) (files : Files) (program : String) (reply : Executor.Reply) : Outcome :=
  let title := lines [s!"Level: {(Domain.Level.header s.level).name} ({d.name})"]
  match begin s files program with
  | .error h => .after title h
  | .ok begun =>
    let (result, shown, s) := Session.complete reply begun
    let replayed := title ++ steps shown.notices shown.pauses
    match result with
    | .error _ => .after replayed .breakdown
    | .ok r =>
      let replayed := replayed ++ lines (resultLines r)
      match (s.check 0.0).1 with
      | .error _ => .after replayed .breakdown
      | .ok v =>
        let mark := if v.success then "OK" else "FAIL"
        { shown := replayed ++ lines [s!"{mark} {v.message}"]
          status := if v.success then 0 else 1 }

end

def run (c : Config) (files : Files) (level program : String) (fast : Bool)
    (reply : Executor.Reply) : Outcome :=
  match openSession c files level fast with
  | .error h => .after [] h
  | .ok s => runIn s.session files program reply

def execute (c : Config) (files : Files) (reply : Executor.Reply) : Command → Outcome
  | .levels domain => levels domain
  | .validate file => validate files file
  | .run level program fast => run c files level program fast reply

/-- The status of a program that has no command to carry out. -/
def Stop.status : Stop → Nat
  | help => 0
  | noCommand => 1
  | misused => 2

/-- What comes of a program that is sent away while there is no connection. -/
def unconnected : Executor.Reply := .unreachable "All connection attempts failed"

/-- What the program does with its arguments. -/
def invoke (args : List String) (c : Config) (files : Files) (reply : Executor.Reply) : Outcome :=
  match parse args with
  | .ok command => execute c files reply command
  | .error stop => { status := stop.status }

/-- The files that a command may read. -/
def Command.files : Command → List String
  | levels _ => []
  | validate file => [file]
  | run level program _ => [level, program]

/-- The text that a command prints. -/
def Outcome.text (o : Outcome) : String :=
  String.join (o.shown.map fun
    | .line t => t ++ "\n"
    | .pause _ => "")

end PuzzleWorlds.CommandLine
