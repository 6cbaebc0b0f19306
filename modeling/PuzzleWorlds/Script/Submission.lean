import PuzzleWorlds.Script.Prelude
import PuzzleWorlds.Script.Statement
import PuzzleWorlds.Block.Compile

/-! Scripts made ready to be sent away: they are read for mistakes, their commands are counted, and
the functions that report commands are put before them. -/

namespace PuzzleWorlds

/-- A script with the text to run. The script begins after `lineOffset` lines of the text. -/
structure Submission where
  domain : Domain
  source : String
  text : String
  languageId : Int
  lineOffset : Nat
  commandCalls : Nat
deriving Repr

namespace Script

/-- The executor's number for the language of scripts, with its name. -/
def languageId : Int := 71

def languageName : String := "Python 3"

def banner : String := "# ========== YOUR CODE =========="

/-- Everything that is put before a script; it ends with a line end. -/
def preamble (d : Domain) (prelude : String) : String :=
  joinLines [helpers d, prelude, "", banner, ""]

def countLines (s : String) : Nat := s.toList.count '\n'

/-- The number of calls that name a command of the domain or a helper. -/
def commandCalls (d : Domain) (t : Tree) : Nat :=
  let names := d.commandNames ++ d.helperNames
  t.countCalls fun name => names.contains name

def submission (d : Domain) (prelude source : String) (calls : Nat) : Submission where
  domain := d
  source := source
  text := preamble d prelude ++ source
  languageId := languageId
  lineOffset := countLines (preamble d prelude)
  commandCalls := calls

def failure (message : String) (location : Option Location := none) : Compilation P :=
  .failed { kind := .compileError, message, location }

def unsupported (language : Int) : Compilation P :=
  failure (s!"Language {intText language} is not supported; use " ++
    s!"{languageName} ({intText languageId})")

def broken (e : Error) : Compilation P :=
  failure e.message (some { line := some e.line, column := some e.column })

def silent : String := "The program never calls a command, so nothing will move"

/-- Compiles a script with what its world offers. A script cannot hold a null character. -/
def compile (d : Domain) (prelude : Except Misfit String) (source : String) :
    Except Misfit (Compilation Submission) :=
  if source.toList.contains (Char.ofNat 0) then .error .nullCharacter
  else match parse source with
    | .error e => .ok (broken e)
    | .ok t =>
      let calls := commandCalls d t
      prelude.map fun text =>
        .done (submission d text source calls) (if calls == 0 then [silent] else [])

end Script

namespace Domain

/-- What a level offers to the scripts of a domain. Shelves and arenas need a level of their own. -/
def preludeOf (d : Domain) (l : AnyLevel) : Except Misfit String :=
  if h : l.domain = d then .ok (prelude (h ▸ l.level))
  else match d with
    | sorting => .error (.noAttribute l.domain.name "potions")
    | combat => .error (.noAttribute l.domain.name "enemies")
    | d => .ok d.sharedPrelude

end Domain

/-- Compiles a script for a level. -/
def compileScript {d : Domain} (source : String) (l : d.Level)
    (language : Int := Script.languageId) : Except Misfit (Compilation Submission) :=
  if language != Script.languageId then .ok (Script.unsupported language)
  else Script.compile d (.ok (Domain.prelude l)) source

/-- Compiles a script for the world of a name. -/
def compileScriptFor (source domain : String) (level : AnyLevel) (language : Int) :
    Except Misfit (Compilation Submission) :=
  if language != Script.languageId then .ok (Script.unsupported language)
  else match Domain.ofName? domain with
    | none => .ok (Compilation.unknownDomain domain)
    | some d => Script.compile d (d.preludeOf level) source

end PuzzleWorlds
