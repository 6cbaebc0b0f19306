import PuzzleWorlds.Service.Request
import PuzzleWorlds.Service.Socket

/-! The service. It keeps the sessions and the sockets that follow them; a request leads to an
answer, to messages for the sockets and to a new state. -/

namespace PuzzleWorlds.Service

/-- `connected` sockets have been seen so far. -/
structure State where
  table : SessionTable := {}
  sockets : List Socket := []
  connected : Nat := 0

/-- What a request meets: the time, the executor's next reply, and its reply to the probe. -/
structure Surroundings where
  now : Float
  reply : Executor.Reply := .answered 500 ""
  about : Executor.Reply := .answered 200 ""

/-- What a request led to. `sent` programs went to the executor meanwhile. -/
structure Handled where
  state : State
  response : Except Breakdown Response
  deliveries : List Delivery := []
  sent : Nat := 0

/-- The levels of a pack that a client brings; all of them must load and be valid. -/
def customPack (documents : List Value) : Except ErrorReport (List AnyLevel) :=
  match loadLevels documents with
  | .error f => .error (.badLevels "Level pack failed to load" f.errors)
  | .ok levels =>
    let found := levels.zipIdx.flatMap fun l =>
      l.1.validate.errors.map fun e => s!"levels[{natText l.2}]: {e}"
    let errors := found ++ if levels.isEmpty then ["Level pack is empty"] else []
    if errors.isEmpty then .ok levels
    else .error (.badLevels "Level pack failed validation" errors)

/-- The report on a session that could not be created, unless something went wrong inside. -/
def ofCreateError (e : CreateError) : Except Breakdown ErrorReport :=
  match e with
  | .unknownDomain _ =>
    .ok { code := .unknownDomain, message := e.message,
          details := some [("domains", .texts Catalog.standard.names)] }
  | .foreignLevel .. | .noLevels _ => .ok { code := .invalidLevel, message := e.message }
  | .noSuchIndex _ => .ok { code := .invalidLevelIndex, message := e.message }
  | .fault f => match f.kind with
    | .misfit .value => .ok { code := .invalidLevel, message := e.message }
    | .misfit .index => .ok { code := .invalidLevelIndex, message := e.message }
    | _ => .error (.fault f)

namespace State

def reply (s : State) (r : Response) : Handled := ⟨s, .ok r, [], 0⟩

def answer (s : State) (body : Value) : Handled := s.reply { body := finite body }

def refuse (s : State) (e : ErrorReport) : Handled := s.reply e.response

def breakDown (s : State) (why : Breakdown) : Handled := ⟨s, .error why, [], 0⟩

def put {d : Domain} (s : State) (session : Session d) : State :=
  { s with table := s.table.put ⟨d, session⟩ }

def tell (s : State) (session : String) (body : Value) : State × List Delivery :=
  let (sockets, deliveries) := broadcast s.sockets session body
  ({ s with sockets }, deliveries)

def tellAll (s : State) (session : String) : List Value → State × List Delivery
  | [] => (s, [])
  | body :: rest =>
    let (s, first) := s.tell session body
    let (s, more) := s.tellAll session rest
    (s, first ++ more)

def withBody (s : State) (r : Request) (read : Fields → Decoded α) (next : α → Handled) : Handled :=
  match readBody r.body read with
  | .ok a => next a
  | .error f => s.reply (ofBodyFault f)

def withSession (s : State) (id : String) (next : {d : Domain} → Session d → Handled) : Handled :=
  match s.table.find? id with
  | some ⟨_, session⟩ => next session
  | none => s.refuse (.sessionNotFound id)

/-- The state after a change of a session, which may have failed. -/
def changed {d : Domain} (s : State) (x : Except Fault α × Session d) (next : State → α → Handled) :
    Handled :=
  match x.1 with
  | .ok a => next (s.put x.2) a
  | .error f => (s.put x.2).breakDown (.fault f)

def create (s : State) (c : Creation) (now : Float) : Handled :=
  if !Catalog.standard.contains c.domain then
    match ofCreateError (.unknownDomain c.domain) with
    | .ok e => s.refuse e
    | .error why => s.breakDown why
  else
    match (c.levels.map customPack).elim (.ok none) fun x => x.map some with
    | .error e => s.refuse e
    | .ok levels =>
      let (created, table) := s.table.create c.domain levels c.levelIndex now
      let s := { s with table }
      match created with
      | .ok ⟨_, session⟩ => s.answer (sessionEntry session)
      | .error e => match ofCreateError e with
        | .ok e => s.refuse e
        | .error why => s.breakDown why

/-- Lets a run go to its end. The sockets are told of each step, and of the end if there is an
answer. -/
def finishRun {d : Domain} (s : State) (w : Surroundings)
    (x : Except Fault (Stretch d) × Session d) : Handled :=
  let (result, shown, session) := Session.complete w.reply x
  let (s, steps) := (s.put session).tellAll session.id (shown.notices.map stepMessage)
  match result.mapError Breakdown.fault >>= runEntry session with
  | .error why => ⟨s, .error why, steps, shown.sent⟩
  | .ok entry =>
    let (s, finished) := s.tell session.id (typed "run_finished" (finite entry))
    ⟨s, .ok { body := finite entry }, steps ++ finished, shown.sent⟩

/-- Ends a session. Its sockets are told, and nothing more after that. -/
def finish (s : State) (id reason : String) : Handled :=
  let (ended, table) := s.table.finish id
  let (s, deliveries) :=
    { s with table }.tell id (typed "session_ended" (.dict [("reason", .text reason)]))
  let sockets := s.sockets.map fun k => if k.session == id then { k with listed := false } else k
  { state := { s with sockets }
    response := .ok { body := .dict [("success", .bool ended.isSome), ("session_id", .text id)] }
    deliveries }

def reset {d : Domain} (s : State) (session : Session d) (now : Float) : Handled :=
  let x := session.reset now
  s.changed x fun s _ =>
    let body := finite (stateEntry x.2)
    let (s, deliveries) := s.tell x.2.id (typed "state_update" body)
    { state := s, response := .ok { body }, deliveries }

def selectLevel {d : Domain} (s : State) (session : Session d) (index : Int) (now : Float) :
    Handled :=
  match session.position? index with
  | .error e =>
    s.refuse { code := .invalidLevelIndex, message := e.message,
               details := some [("level_count", .nat e.count)] }
  | .ok i =>
    let x := session.goTo i now
    s.changed x fun s _ => s.answer (advanceEntry x.2 true)

def health (s : State) (w : Surroundings) : Handled :=
  match Executor.isHealthy w.about with
  | none => s.breakDown .probe
  | some available =>
    s.answer (.dict [("status", "healthy"), ("service", "blockykids-engine"),
      ("version", .text version), ("executor_available", .bool available)])

def root : Value :=
  .dict [("name", "BlockyKids Engine API"), ("version", .text version), ("docs", "/api/docs"),
    ("health", "/health")]

/-- What is asked of a session that is there. -/
def onSession {d : Domain} (s : State) (session : Session d) (a : Aspect) (now : Float) : Handled :=
  match a with
  | .reset => s.reset session now
  | .state => s.answer (stateEntry session)
  | .check =>
    let x := session.check now
    s.changed x fun s v => s.answer (verdictEntry x.2 v)
  | .advance =>
    let x := session.advance now
    s.changed x fun s advanced => s.answer (advanceEntry x.2 advanced)
  | _ => s.answer (sessionEntry session)

/-- A request for a resource with a method that it understands. -/
def serve (s : State) (w : Surroundings) (r : Request) (m : Method) : Resource → Handled
  | .root => s.answer root
  | .health => s.health w
  | .domains => s.answer (.dict [("domains", .list (Domain.all.map domainEntry))])
  | .pack name => match Domain.ofName? name with
    | some d => s.answer (packEntry d)
    | none =>
      s.refuse { code := .unknownDomain, message := (CatalogError.unknownDomain name).message }
  | .validation => s.withBody r decodeDocument fun v => s.answer (validationEntry v)
  | .sessions => match m with
    | .post => s.withBody r Creation.decode fun c => s.create c w.now
    | _ =>
      s.answer (.dict [("sessions", .texts s.table.ids), ("count", .nat s.table.size)])
  | .session id .blockRun => s.withBody r decodeWorkspace fun v =>
    s.withSession id fun session => s.finishRun w (session.runBlocks v w.now)
  | .session id .sourceRun => s.withBody r SourceRun.decode fun p =>
    s.withSession id fun session => s.finishRun w (session.runSource p.source p.language w.now)
  | .session id .level => s.withBody r decodeIndex fun index =>
    s.withSession id fun session => s.selectLevel session index w.now
  | .session id a => match m with
    | .delete => s.finish id ((r.parameter? "reason").getD "user_ended")
    | _ => s.withSession id fun session => s.onSession session a w.now

/-- Whether a path names a resource once the slashes at its end are taken away. -/
def isSlashed (path : String) : Bool :=
  path.endsWith "/" &&
    (Resource.ofPath? (String.ofList (path.toList.reverse.dropWhile (· == '/')).reverse)).isSome

def handle (s : State) (w : Surroundings) (r : Request) : Handled :=
  match Resource.ofPath? r.path with
  | none => s.reply (if isSlashed r.path then moved else notFound)
  | some resource => match Method.ofName? r.method with
    | some m => if resource.methods.contains m then s.serve w r m resource else s.reply notAllowed
    | none => s.reply notAllowed

/-! Sockets. -/

/-- Opens a socket and greets it with the state of its session. Its number is told. -/
def connect (s : State) (target : String) : Nat × State × List Delivery :=
  let id := s.connected
  let s := { s with connected := id + 1 }
  match followed? (Request.path { method := "GET", target }) with
  | none => (id, s, [⟨id, .closed⟩])
  | some session =>
    (id, { s with sockets := s.sockets ++ [{ id, session }] },
      [⟨id, .accepted⟩, ⟨id, .json (greeting s.table session)⟩])

/-- Changes a socket that is alive. -/
def onSocket (s : State) (id : Nat) (f : Socket → Socket × List Delivery) : State × List Delivery :=
  match s.sockets.find? fun k => k.id == id && k.alive with
  | none => (s, [])
  | some k =>
    let (k, deliveries) := f k
    ({ s with sockets := s.sockets.map fun j => if j.id == id then k else j }, deliveries)

def receive (s : State) (id : Nat) (text : String) : State × List Delivery :=
  s.onSocket id fun k => k.receive text

def disconnect (s : State) (id : Nat) : State := (s.onSocket id fun k => (k.drop, [])).1

/-- From now on nothing can be sent through a socket, or it can again. -/
def setBroken (s : State) (id : Nat) (broken : Bool) : State :=
  { s with sockets := s.sockets.map fun k => if k.id == id then { k with broken } else k }

end State

end PuzzleWorlds.Service
