import PuzzleWorlds.Document.Decode
import PuzzleWorlds.Json.Read
import PuzzleWorlds.Script.Submission

/-! Bodies of requests. A body is JSON text; all issues of a body are reported together, each with
its place below the body. -/

namespace PuzzleWorlds.Service

/-- Why a body cannot be used. -/
inductive BodyFault where
  | notJson (failure : Json.Failure)
  | unreadable
  | issues (list : List Issue)
deriving Repr

namespace BodyFault

def status : BodyFault → Nat
  | unreadable => 400
  | notJson _ | issues _ => 422

def context : Problem → List (String × Value)
  | .below n => [("ctx", .dict [("ge", .int n)])]
  | _ => []

def issueToDict (i : Issue) : Value :=
  .dict ([("type", .text i.problem.code),
    ("loc", .list (.text "body" :: i.place.map Place.toValue)),
    ("msg", .text (i.problem.message false)), ("input", i.found)] ++ context i.problem)

def failureToDict (f : Json.Failure) : Value :=
  .dict [("type", .text "json_invalid"), ("loc", .list [.text "body", .nat f.position]),
    ("msg", .text "JSON decode error"), ("input", .dict []),
    ("ctx", .dict [("error", .text f.problem.text)])]

def detail : BodyFault → Value
  | notJson f => .list [failureToDict f]
  | unreadable => .text "There was an error parsing the body"
  | issues list => .list (list.map issueToDict)

end BodyFault

/-- The value of a body. A missing body and `null` are the same; a byte order mark is skipped. -/
def bodyValue (s : String) : Except BodyFault Value :=
  if s.isEmpty then .ok .null
  else match Json.read (Json.withoutMark s) with
    | .ok v => .ok v
    | .error f => match f.problem with
      | .longNumeral _ => .error .unreadable
      | _ => .error (.notJson f)

/-- Reads a body with the fields of an object. -/
def readBody (s : String) (read : Fields → Decoded α) : Except BodyFault α := do
  let v ← bodyValue s
  let decoded : Decoded α := match v, v.entries? with
    | .null, _ => .fail .missing v
    | _, some es => read { entries := es, whole := v, spelling := .asNamed }
    | _, none => .fail .noFields v
  match decoded with
  | .ok a => return a
  | .bad list => throw (.issues list)

def index : Decoder Int := Decoder.int.atLeast 0

/-- A document that must be a dictionary, but is kept as it is. -/
def document : Decoder Value := fun v => (Decoder.dict v).map fun _ => v

/-- Asks for a session; without levels it is on the domain's own pack. -/
structure Creation where
  domain : String
  levelIndex : Int := 0
  levels : Option (List Value) := none
deriving Repr

def Creation.decode (o : Fields) : Decoded Creation :=
  Creation.mk <$> o.required "domain" Decoder.text
    <*> o.withDefault "level_index" 0 index
    <*> o.withDefault "levels" none (Decoder.optional (Decoder.list document))

/-- A script to run. -/
structure SourceRun where
  source : String
  language : Int := Script.languageId
deriving Repr

def SourceRun.decode (o : Fields) : Decoded SourceRun :=
  SourceRun.mk <$> o.required "source" Decoder.text
    <*> o.withDefault "language_id" Script.languageId Decoder.int

def decodeWorkspace (o : Fields) : Decoded Value := o.required "workspace" Decoder.any

def decodeIndex (o : Fields) : Decoded Int := o.required "index" index

def decodeDocument (o : Fields) : Decoded Value := o.required "level" document

end PuzzleWorlds.Service
