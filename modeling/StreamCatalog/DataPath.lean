import StreamCatalog.Lifecycle
import StreamCatalog.Query
import StreamCatalog.Writer

namespace StreamCatalog

structure OpenWriter where
  client : Nat
  writer : Writer
  deriving DecidableEq, Repr

structure DataPath where
  clients : Std.ExtTreeMap Nat EventStore
  /-- All writers ever opened. The place of a writer is its handle. -/
  writers : Array OpenWriter

/-- Controllers hold nothing between two calls, so a call carries the settings of its controller. -/
inductive Call where
  | lifecycle (settings : Settings) (operation : Operation)
  | query (query : Query)
  | openWriter (client : Nat) (stream : StreamId)
  | write (handle : Nat) (routingKey : String) (event : Payload)
  | isStale (handle : Nat)
  | append (client : Nat) (incarnation : Incarnation) (segment : Nat) (event : Payload)
  | read (client : Nat) (incarnation : Incarnation) (segment : Nat)
  | countEvents (client : Nat) (incarnation : Incarnation)
  | usedSegments (client : Nat) (incarnation : Incarnation)
  deriving DecidableEq, Repr

inductive Reply where
  | lifecycle (result : Except Error Bool)
  | query (result : Except Error Answer)
  | opened (result : Except WriteError Nat)
  | written (result : Except WriteError Position)
  | stale (result : Except WriteError Bool)
  | appended (offset : Nat)
  | events (events : Array Payload)
  | counted (count : Nat)
  | usedSegments (segments : List Nat)
  | noWriter

namespace DataPath

def empty : DataPath := ⟨∅, #[]⟩

def events (path : DataPath) (client : Nat) : EventStore := path.clients.getD client .empty

def setEvents (path : DataPath) (client : Nat) (events : EventStore) : DataPath :=
  { path with clients := path.clients.insert client events }

def openWriter (path : DataPath) (client : Nat) (stream : StreamId) : Plan (Reply × DataPath) := do
  match ← (Writer.connect stream).run with
  | .ok writer =>
    return (.opened (.ok path.writers.size),
      { path with writers := path.writers.push ⟨client, writer⟩ })
  | .error failure => return (.opened (.error failure), path)

def write (hash : String → UInt64) (path : DataPath) (handle : Nat) (routingKey : String)
    (event : Payload) : Plan (Reply × DataPath) := do
  let some opened := path.writers[handle]? | return (.noWriter, path)
  match ← (opened.writer.write hash (path.events opened.client) routingKey event).run with
  | .ok (position, writer, events) =>
    let path := path.setEvents opened.client events
    return (.written (.ok position),
      { path with writers := path.writers.setIfInBounds handle ⟨opened.client, writer⟩ })
  | .error failure => return (.written (.error failure), path)

def isStale (path : DataPath) (handle : Nat) : Plan Reply := do
  let some opened := path.writers[handle]? | return .noWriter
  return .stale (← opened.writer.isStale.run)

def perform (hash : String → UInt64) (path : DataPath) : Call → Plan (Reply × DataPath)
  | .lifecycle settings operation => do
    return (.lifecycle (← (operation.plan settings).run), path)
  | .query query => do return (.query (← query.plan.run), path)
  | .openWriter client stream => path.openWriter client stream
  | .write handle routingKey event => path.write hash handle routingKey event
  | .isStale handle => do return (← path.isStale handle, path)
  | .append client incarnation segment event =>
    let (offset, events) := (path.events client).append incarnation segment event
    return (.appended offset, path.setEvents client events)
  | .read client incarnation segment =>
    return (.events ((path.events client).read incarnation segment), path)
  | .countEvents client incarnation =>
    return (.counted ((path.events client).count incarnation), path)
  | .usedSegments client incarnation =>
    return (.usedSegments ((path.events client).usedSegments incarnation), path)

end DataPath

end StreamCatalog
