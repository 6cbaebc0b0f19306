import PuzzleWorlds.Json.Read
import PuzzleWorlds.Text.Utf8

/-! Requests to the service, and the resources that they are for. -/

namespace PuzzleWorlds.Service

/-- The `target` is a path, and a query after a question mark. An empty body is no body. -/
structure Request where
  method : String
  target : String
  body : String := ""
deriving Repr

/-- The texts before and after the first occurrence of a character; nothing comes after a missing
one. -/
def cut (c : Char) (s : List Char) : List Char × List Char :=
  (s.takeWhile (· != c), (s.dropWhile (· != c)).drop 1)

/-- The bytes of a text in a query, where a plus is a blank and any byte may be written as a percent
sign with two digits. -/
def queryBytes : List Char → List Nat
  | [] => []
  | '+' :: rest => 32 :: queryBytes rest
  | '%' :: a :: b :: rest =>
    match Json.hexValue? a, Json.hexValue? b with
    | some x, some y => (16 * x + y) :: queryBytes rest
    | _, _ => 37 :: queryBytes (a :: b :: rest)
  | c :: rest => Utf8.encode c.toString ++ queryBytes rest

def queryText (s : List Char) : String := Utf8.decode (queryBytes s)

namespace Request

def path (r : Request) : String := String.ofList (cut '?' r.target.toList).1

/-- The parameters of the query, in order. -/
def parameters (r : Request) : List (String × String) :=
  let query := String.ofList (cut '?' r.target.toList).2
  ((query.splitOn "&").filter fun p => !p.isEmpty).map fun p =>
    let (name, value) := cut '=' p.toList
    (queryText name, queryText value)

/-- The last value of a parameter. -/
def parameter? (r : Request) (name : String) : Option String :=
  ((r.parameters.filter fun p => p.1 == name).getLast?).map (·.2)

end Request

inductive Method where
  | get | post | delete
deriving DecidableEq, Repr

def Method.ofName? : String → Option Method
  | "GET" => some get
  | "POST" => some post
  | "DELETE" => some delete
  | _ => none

/-- What can be asked of a session. -/
inductive Aspect where
  | whole | blockRun | sourceRun | reset | state | check | advance | level
deriving DecidableEq, Repr

inductive Resource where
  | root
  | health
  | domains
  | pack (domain : String)
  | validation
  | sessions
  | session (id : String) (aspect : Aspect)
deriving DecidableEq, Repr

namespace Resource

def aspect? : List String → Option Aspect
  | [] => some .whole
  | ["run", "blocks"] => some .blockRun
  | ["run", "source"] => some .sourceRun
  | ["reset"] => some .reset
  | ["state"] => some .state
  | ["check"] => some .check
  | ["advance"] => some .advance
  | ["level"] => some .level
  | _ => none

/-- The resource at a path below the root of the interface. -/
def ofParts? : List String → Option Resource
  | ["domains"] => some .domains
  | ["domains", d, "levels"] => if d.isEmpty then none else some (.pack d)
  | ["levels", "validate"] => some .validation
  | ["sessions"] => some .sessions
  | "sessions" :: id :: rest => if id.isEmpty then none else (aspect? rest).map (.session id)
  | _ => none

def ofPath? (path : String) : Option Resource :=
  match path.splitOn "/" with
  | ["", ""] => some .root
  | ["", "health"] => some .health
  | "" :: "api" :: "v1" :: parts => ofParts? parts
  | _ => none

/-- The methods that a resource understands. -/
def methods : Resource → List Method
  | root | health | domains | pack _ => [.get]
  | validation => [.post]
  | sessions => [.post, .get]
  | session _ .whole => [.get, .delete]
  | session _ .state => [.get]
  | session _ _ => [.post]

end Resource

/-- The session whose replay a socket at this path follows. -/
def followed? (path : String) : Option String :=
  match path.splitOn "/" with
  | ["", "api", "v1", "sessions", id, "ws"] => if id.isEmpty then none else some id
  | _ => none

end PuzzleWorlds.Service
