import PuzzleWorlds.Domain.Catalog
import PuzzleWorlds.Level.Packs
import PuzzleWorlds.Session.Run

/-! The sessions of a service. They live in memory only; those that nobody has used for long can be
dropped. -/

namespace PuzzleWorlds

/-- A session on some domain. -/
structure AnySession where
  domain : Domain
  session : Session domain

namespace AnySession

def id (s : AnySession) : String := s.session.id

/-- The session, if it is on a domain. -/
def on? (s : AnySession) (d : Domain) : Option (Session d) :=
  if h : s.domain = d then some (h ▸ s.session) else none

end AnySession

/-- The sessions by identifier, in the order in which they were created. `issued` identifiers were
given out so far. -/
structure SessionTable where
  config : Config := {}
  issued : Nat := 0
  sessions : List AnySession := []

/-- Why there is no new session. -/
inductive CreateError where
  | unknownDomain (name : String)
  | foreignLevel (id : LevelId) (found expected : Domain)
  | noLevels (domain : Domain)
  | noSuchIndex (index : Int)
  | fault (why : Fault)
deriving Repr

def CreateError.message : CreateError → String
  | unknownDomain name => (CatalogError.unknownDomain name).message
  | foreignLevel id found expected =>
    s!"Level {id.display} belongs to '{found.name}', not '{expected.name}'"
  | noLevels d => s!"Session for {d.name} needs at least one level"
  | noSuchIndex i => s!"Level index {intText i} out of range"
  | fault f => f.message

/-- A session that is not there: it was never created, has ended or has expired. -/
structure SessionNotFound where
  id : String
deriving DecidableEq, Repr

def SessionNotFound.message (e : SessionNotFound) : String := s!"Session '{e.id}' not found"

/-- The level, if it is one of the domain. -/
def AnyLevel.ofDomain (d : Domain) (l : AnyLevel) : Except CreateError d.Level :=
  if h : l.domain = d then .ok (h ▸ l.level)
  else .error (.foreignLevel (Domain.Level.header l.level).id l.domain d)

namespace SessionTable

/-- A session on a pack, with the world of its level. -/
def open? (t : SessionTable) (id : String) (d : Domain) (levels : List d.Level) (index : Int)
    (now : Float) : Except CreateError (Session d) :=
  let pack := levels.toArray
  if pack.isEmpty then .error (.noLevels d)
  else if h : 0 ≤ index ∧ index.toNat < pack.size then
    have inside := h.2
    match d.initialWorld pack[index.toNat] with
    | .error f => .error (.fault f)
    | .ok w =>
      let scheduler : Scheduler d := { pace := t.config.replayPace }
      .ok { id, config := t.config, executor := some t.config.executor, levels := pack,
            levelIndex := ⟨index.toNat, inside⟩, scheduler := scheduler.prime w,
            createdAt := now, lastActive := now }
  else .error (.noSuchIndex index)

/-- Creates a session on a pack, or on the domain's own pack. An identifier is used up as soon as
the domain and the levels fit together. -/
def create (t : SessionTable) (domain : String) (levels : Option (List AnyLevel)) (index : Int)
    (now : Float) : Except CreateError AnySession × SessionTable :=
  match Domain.ofName? domain with
  | none => (.error (.unknownDomain domain), t)
  | some d =>
    match levels.elim (.ok d.pack) fun ls => ls.mapM (AnyLevel.ofDomain d) with
    | .error e => (.error e, t)
    | .ok pack =>
      let t := { t with issued := t.issued + 1 }
      match t.open? s!"session-{natText t.issued}" d pack index now with
      | .error e => (.error e, t)
      | .ok s => (.ok ⟨d, s⟩, { t with sessions := t.sessions ++ [⟨d, s⟩] })

def find? (t : SessionTable) (id : String) : Option AnySession :=
  t.sessions.find? fun s => s.id == id

def require (t : SessionTable) (id : String) : Except SessionNotFound AnySession :=
  match t.find? id with
  | some s => .ok s
  | none => .error ⟨id⟩

/-- Puts a changed session back in its place. -/
def put (t : SessionTable) (s : AnySession) : SessionTable :=
  { t with sessions := t.sessions.map fun u => if u.id == s.id then s else u }

/-- Ends a session; the closed session is returned if it was there. -/
def finish (t : SessionTable) (id : String) : Option AnySession × SessionTable :=
  match t.find? id with
  | none => (none, t)
  | some s =>
    (some ⟨s.domain, s.session.close⟩,
      { t with sessions := t.sessions.filter fun u => u.id != id })

def ids (t : SessionTable) : List String := t.sessions.map AnySession.id

def size (t : SessionTable) : Nat := t.sessions.length

/-- Whether nobody has used a session for more than some seconds, and no replay steps in it. -/
def isStale (s : AnySession) (maxAge : Float) (now : Float) : Bool :=
  now - s.session.lastActive > maxAge && !s.session.isRunning

/-- Ends the stale sessions and tells which they were. -/
def cleanup (t : SessionTable) (maxAge : Option Float) (now : Float) :
    List AnySession × SessionTable :=
  let age := maxAge.getD ((Binary.nearestInt? t.config.sessionMaxAgeSeconds).getD (1.0 / 0.0))
  let stale := t.sessions.filter fun s => isStale s age now
  (stale.map fun s => ⟨s.domain, s.session.close⟩,
    { t with sessions := t.sessions.filter fun s => !isStale s age now })

end SessionTable

end PuzzleWorlds
