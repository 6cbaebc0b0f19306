import PuzzleWorlds.Executor.Request
import PuzzleWorlds.Json.Read

/-! The executor's report on a program, as it is read from the body of an answer. -/

namespace PuzzleWorlds.Executor

/-- A report by its fields. Nothing is known about their types. -/
structure Report where
  fields : List (String × Value)
deriving Repr

/-- Why the body of an answer holds no report. -/
inductive Unreadable where
  | badJson (message : String)
  | notObject
  | notBase64 (field : String)
  | notAscii
deriving DecidableEq, Repr

def Unreadable.message : Unreadable → String
  | badJson m => m
  | notObject => "expected a JSON object"
  | notBase64 field => s!"field '{field}' is not base64"
  | notAscii => "string argument should contain only ASCII characters"

namespace Report

/-- The fields that travel in base 64. -/
def encodedFields : List String := ["stdout", "stderr", "compile_output", "message"]

def get (r : Report) (field : String) : Value := (Value.lookup r.fields field).getD .null

def decodeText (field s : String) : Except Unreadable String :=
  if s.toList.any fun c => c.toNat ≥ 128 then .error .notAscii
  else match Base64.decode s.toList with
    | some bytes => .ok (Utf8.decode bytes)
    | none => .error (.notBase64 field)

/-- A text in base 64. -/
def encodeText (s : String) : String := String.ofList (Base64.encode (Utf8.encode s))

/-- The fields of a report as they travel. -/
def encode (fields : List (String × Value)) : List (String × Value) :=
  fields.map fun e => match e.2 with
    | .text s => if encodedFields.contains e.1 then (e.1, .text (encodeText s)) else e
    | _ => e

/-- Decodes the texts of some fields, in order; what is no text stays as it is. -/
def decodeFields (r : Report) : List String → Except Unreadable Report
  | [] => .ok r
  | field :: rest =>
    match r.get field with
    | .text s => do
      let t ← decodeText field s
      decodeFields ⟨Json.setKey r.fields field (.text t)⟩ rest
    | _ => r.decodeFields rest

/-- The report in the body of an answer. -/
def ofBody (encoded : Bool) (body : String) : Except Unreadable Report :=
  let text := Json.withoutMark body
  match Json.read text with
  | .error f => .error (.badJson (f.message text))
  | .ok (.dict fields) =>
    if encoded then decodeFields ⟨fields⟩ encodedFields else .ok ⟨fields⟩
  | .ok _ => .error .notObject

/-- A field that should hold a text: nothing counts as an empty one, and anything else has no
method to be read by. -/
def text (r : Report) (field method : String) : Except Misfit String :=
  match r.get field with
  | .text s => .ok s
  | v => if v.truthy then .error (.noAttribute v.typeName method) else .ok ""

/-- The entries of the status. -/
def status (r : Report) : Except Misfit (List (String × Value)) :=
  match r.get "status" with
  | .dict es => .ok es
  | v => if v.truthy then .error (.noAttribute v.typeName "get") else .ok []

end Report

end PuzzleWorlds.Executor
