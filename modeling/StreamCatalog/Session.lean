import StreamCatalog.DataPath
import StreamCatalog.LockTable
import StreamCatalog.Store.Faulty

namespace StreamCatalog

structure Session where
  controllers : Array Controller
  world : FaultyStore := {}
  path : DataPath := .empty
  handles : Std.ExtTreeMap String Nat := ∅

namespace Session

inductive Step where
  | lifecycle (controller : Nat) (operation : Operation)
  /-- Each task is a list of operations. The tasks do not get in each other's way. -/
  | parallel (controller : Nat) (tasks : List (List Operation))
  | query (query : Query)
  | scopeRecord (name : String)
  | scopeExists (name : String)
  | scopeIsEmpty (name : String)
  | scopes
  | streamRecord (stream : StreamId)
  | streamExists (stream : StreamId)
  | streamInfo (stream : StreamId)
  | get (key : Key)
  | compareAndSet (key : Key) (expected : Option Nat) (record : Record)
  | scopeNames
  | size
  | isEmpty
  | openWriter (client : Nat) (name : String) (stream : StreamId)
  | write (name : String) (routingKey : String) (event : Payload)
  | isStale (name : String)
  | writer (name : String)
  | append (client : Nat) (incarnation : Incarnation) (segment : Nat) (event : Payload)
  | read (client : Nat) (incarnation : Incarnation) (segment : Nat)
  | countEvents (client : Nat) (incarnation : Incarnation)
  | usedSegments (client : Nat) (incarnation : Incarnation)
  | injectFault (fault : Fault)
  | clearFaults
  | poison
  | dump

inductive Outcome where
  | call (reply : Reply)
  | parallel (results : List (List (Except Error Bool)))
  | scopeRecord (result : Except StoreFailure (Option (Versioned ScopeRecord)))
  | streamRecord (result : Except StoreFailure (Option (Versioned StreamRecord)))
  | record (result : Except StoreFailure (Option (Versioned Record)))
  | flag (result : Except StoreFailure Bool)
  | names (result : Except StoreFailure (List String))
  | info (result : Except StoreFailure (Option StreamInfo))
  | version (result : Except StoreFailure Nat)
  | size (records : Nat)
  | isEmpty (empty : Bool)
  | writer (writer : Writer)
  | done
  | poisoned (already : Bool)
  | dump (records : Except StoreFailure (List (Key × Versioned Record)))

def run (session : Session) (plan : Plan α) : α × Session :=
  let done := plan.run FaultyStore.service session.world
  (done.1, { session with world := done.2 })

def call (hash : String → UInt64) (session : Session) (call : Call) : Reply × Session :=
  let done := session.run (session.path.perform hash call)
  (done.1.1, { done.2 with path := done.1.2 })

def controller (session : Session) (index : Nat) : Controller :=
  session.controllers.getD index {}

def setController (session : Session) (index : Nat) (controller : Controller) : Session :=
  { session with controllers := session.controllers.setIfInBounds index controller }

def operate (session : Session) (index : Nat) (operation : Operation) :
    Except Error Bool × Session :=
  let controller := (session.controller index).enter operation
  let done := session.run (operation.plan controller.settings).run
  let left := controller.leave operation done.1
  let world := left.1.foldl FaultyStore.report done.2.world
  (done.1, { done.2 with world }.setController index left.2)

def operateAll (index : Nat) : List Operation → Session → List (Except Error Bool) × Session
  | [], session => ([], session)
  | operation :: rest, session =>
    let first := session.operate index operation
    let others := operateAll index rest first.2
    (first.1 :: others.1, others.2)

def operateTasks (index : Nat) :
    List (List Operation) → Session → List (List (Except Error Bool)) × Session
  | [], session => ([], session)
  | task :: rest, session =>
    let first := operateAll index task session
    let others := operateTasks index rest first.2
    (first.1 :: others.1, others.2)

def writerOf (session : Session) (handle : Nat) : Outcome :=
  match session.path.writers[handle]? with
  | some opened => .writer opened.writer
  | none => .call .noWriter

/-- Opens a writer under a name. Only a success takes the name from an earlier writer. -/
def openWriter (hash : String → UInt64) (session : Session) (client : Nat) (name : String)
    (stream : StreamId) : Outcome × Session :=
  match session.call hash (.openWriter client stream) with
  | (.opened (.ok handle), session) =>
    (session.writerOf handle, { session with handles := session.handles.insert name handle })
  | (reply, session) => (.call reply, session)

def withWriter (hash : String → UInt64) (session : Session) (name : String)
    (callOf : Nat → Call) : Outcome × Session :=
  match session.handles[name]? with
  | some handle =>
    let done := session.call hash (callOf handle)
    (.call done.1, done.2)
  | none => (.call .noWriter, session)

def plainCall (hash : String → UInt64) (session : Session) (call : Call) : Outcome × Session :=
  let done := session.call hash call
  (.call done.1, done.2)

def fetch (session : Session) (plan : Fetch α) (outcome : Except StoreFailure α → Outcome) :
    Outcome × Session :=
  let done := session.run plan.run
  (outcome done.1, done.2)

def perform (hash : String → UInt64) (session : Session) : Step → Outcome × Session
  | .lifecycle index operation =>
    let done := session.operate index operation
    (.call (.lifecycle done.1), done.2)
  | .parallel index tasks =>
    let done := operateTasks index tasks session
    (.parallel done.1, done.2)
  | .query query => session.plainCall hash (.query query)
  | .scopeRecord name => session.fetch (Lookup.scopeRecord name) .scopeRecord
  | .scopeExists name => session.fetch (Lookup.scopeExists name) .flag
  | .scopeIsEmpty name => session.fetch (Lookup.scopeIsEmpty name) .flag
  | .scopes => session.fetch Lookup.scopes .names
  | .streamRecord stream => session.fetch (Lookup.streamRecord stream) .streamRecord
  | .streamExists stream => session.fetch (Lookup.streamExists stream) .flag
  | .streamInfo stream => session.fetch (Lookup.streamInfo stream) .info
  | .get key => session.fetch (Fetch.get key) .record
  | .compareAndSet key expected record =>
    session.fetch (Fetch.compareAndSet key expected record) .version
  | .scopeNames => session.fetch Fetch.scopeNames .names
  | .size => (.size session.world.size, session)
  | .isEmpty => (.isEmpty (session.world.size = 0), session)
  | .openWriter client name stream => session.openWriter hash client name stream
  | .write name routingKey event =>
    session.withWriter hash name fun handle => .write handle routingKey event
  | .isStale name => session.withWriter hash name .isStale
  | .writer name =>
    match session.handles[name]? with
    | some handle => (session.writerOf handle, session)
    | none => (.call .noWriter, session)
  | .append client incarnation segment event =>
    session.plainCall hash (.append client incarnation segment event)
  | .read client incarnation segment => session.plainCall hash (.read client incarnation segment)
  | .countEvents client incarnation => session.plainCall hash (.countEvents client incarnation)
  | .usedSegments client incarnation => session.plainCall hash (.usedSegments client incarnation)
  | .injectFault fault =>
    (.done, { session with world.faults := session.world.faults ++ [fault] })
  | .clearFaults => (.done, { session with world.faults := [] })
  | .poison =>
    (.poisoned session.world.poisoned, { session with world.poisoned := true })
  | .dump => (.dump session.world.dump, session)

def step (hash : String → UInt64) (session : Session) (step : Step) :
    Outcome × List Notice × Session :=
  let done := { session with world.notices := #[] }.perform hash step
  (done.1, done.2.world.notices.toList, done.2)

end Session

end StreamCatalog
