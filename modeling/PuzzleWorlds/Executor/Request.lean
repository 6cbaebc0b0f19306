import PuzzleWorlds.Script.Submission
import PuzzleWorlds.Text.Base64
import PuzzleWorlds.Text.Utf8

/-! Requests to the executor, a service that runs scripts and reports on them. -/

namespace PuzzleWorlds.Executor

/-- How the executor is spoken to. While `encoded` is set, texts travel in base 64. -/
structure Settings where
  encoded : Bool := true
  timeoutMs : Int := 10000
deriving Repr

/-- A program to run. -/
structure Request where
  encoded : Bool
  source : String
  languageId : Int
deriving Repr

namespace Request

def path : String := "/submissions"

def query (r : Request) : String :=
  s!"base64_encoded={if r.encoded then true else false}&wait=true"

def body (r : Request) : Value :=
  .dict [("source_code", .text r.source), ("language_id", .int r.languageId)]

def toDict (r : Request) : Value :=
  .dict [("method", "POST"), ("path", .text path), ("query", .text r.query), ("body", r.body)]

/-- The request for a submission. -/
def ofSubmission (s : Settings) (p : Submission) : Request where
  encoded := s.encoded
  source := if s.encoded then String.ofList (Base64.encode (Utf8.encode p.text)) else p.text
  languageId := p.languageId

end Request

/-- What comes back: an answer with its status, nothing in time, or a broken connection. The wait
for an answer is `cutOff` if something else than the connection ended it. -/
inductive Reply where
  | answered (status : Int) (body : String)
  | late (cutOff : Bool)
  | unreachable (reason : String)
deriving Repr

end PuzzleWorlds.Executor
