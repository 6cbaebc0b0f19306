import PuzzleWorlds.Service.Response

/-! Sockets. A client follows the replay of a session through a socket: it is told of every step, of
the end of every run and of the end of the session. -/

namespace PuzzleWorlds.Service

inductive Message where
  | accepted
  | closed
  | json (body : Value)
deriving Repr

/-- A message to one socket, known by its number. -/
structure Delivery where
  socket : Nat
  message : Message
deriving Repr

/-- A socket is `listed` while it is told about its session, and `alive` while it is listened to.
Nothing can be sent through a `broken` one. -/
structure Socket where
  id : Nat
  session : String
  listed : Bool := true
  alive : Bool := true
  broken : Bool := false
deriving Repr

namespace Socket

def drop (s : Socket) : Socket := { s with listed := false, alive := false }

/-- Answers a socket. A broken one is dropped. -/
def answer (s : Socket) (body : Value) : Socket × List Delivery :=
  if s.broken then (s.drop, []) else (s, [⟨s.id, .json body⟩])

def hears (s : Socket) (session : String) : Bool := s.listed && s.session == session

end Socket

def typed (type : String) (payload : Value) : Value :=
  .dict [("type", .text type), ("payload", payload)]

def stepMessage {d : Domain} (n : Notice d) : Value :=
  typed "step" (.dict [("index", .nat n.index), ("action", n.action.toDict),
    ("description", .text (n.action.describe.toOption.getD "")), ("world", d.worldToDict n.world)])

def pong : Value := .dict [("type", "pong")]

def notJsonMessage : Value := typed "error" (.dict [("message", "Invalid JSON")])

/-- The first message to a socket. -/
def greeting (t : SessionTable) (session : String) : Value :=
  match t.find? session with
  | some s => typed "state_update" (finite (stateEntry s.session))
  | none =>
    let e := ErrorReport.sessionNotFound session
    typed "error" (.dict [("message", .text e.message), ("error_code", .text e.code.name)])

namespace Socket

/-- What a text from a client leads to. Texts that are JSON but no object drop the socket. -/
def receive (s : Socket) (text : String) : Socket × List Delivery :=
  match Json.read text with
  | .ok (.dict es) =>
    match Value.lookup es "type" with
    | some (.text "ping") => s.answer pong
    | _ => (s, [])
  | .ok _ => (s.drop, [])
  | .error f => match f.problem with
    | .longNumeral _ => (s.drop, [])
    | _ => s.answer notJsonMessage

end Socket

/-- Tells the sockets of a session. Those that turn out to be broken are told nothing more. -/
def broadcast (sockets : List Socket) (session : String) (body : Value) :
    List Socket × List Delivery :=
  (sockets.map fun s => if s.hears session && s.broken then { s with listed := false } else s,
    (sockets.filter fun s => s.hears session && !s.broken).map fun s => ⟨s.id, .json body⟩)

end PuzzleWorlds.Service
