import StreamCatalog.Lookup
import StreamCatalog.EventStore

namespace StreamCatalog

/-- A writer is bound to one incarnation of a stream, and remembers the epoch and the number of
    segments that it last saw. -/
structure Writer where
  stream : StreamId
  generation : Nat
  epoch : Nat
  segmentCount : Nat
  eventsWritten : Nat
  deriving DecidableEq, Repr

structure Position where
  segment : Nat
  offset : Nat
  deriving DecidableEq, Repr

abbrev WriterAction := ExceptT WriteError Plan

instance : MonadLift Fetch WriterAction := ⟨ExceptT.adapt fun error => .control (.store error)⟩

/-- The segment for a routing key. Equal keys share a segment as long as their number stays. -/
def route (hash : String → UInt64) (routingKey : String) (segmentCount : Nat) : Nat :=
  (hash routingKey).toNat % max segmentCount 1

namespace Writer

def incarnation (writer : Writer) : Incarnation := ⟨writer.stream, writer.generation⟩

def connect (stream : StreamId) : WriterAction Writer := do
  let info ← Lookup.streamInfo stream
  let some info := info.filter (·.record.state = .active) | throw (.streamNotActive stream)
  let record := info.record
  note (.writerOpened stream record.generation record.epoch record.config.segmentCount)
  return ⟨stream, record.generation, record.epoch, record.config.segmentCount, 0⟩

def current (writer : Writer) : WriterAction StreamRecord := do
  let info ← Lookup.streamInfo writer.stream
  let some info := info.filter (·.record.state = .active) | throw (.streamSealed writer.stream)
  if info.record.generation ≠ writer.generation then
    note (.writerOutlived writer.stream writer.generation info.record.generation)
    throw (.streamRecreated writer.stream)
  return info.record

def refresh (writer : Writer) (record : StreamRecord) : WriterAction Writer := do
  if record.epoch = writer.epoch then return writer
  note (.writerRefreshed writer.stream writer.epoch record.epoch record.config.segmentCount)
  return { writer with epoch := record.epoch, segmentCount := record.config.segmentCount }

/-- Appends an event to the segment of its routing key. Nothing is kept of a write that fails. -/
def write (hash : String → UInt64) (writer : Writer) (events : EventStore) (routingKey : String)
    (event : Payload) : WriterAction (Position × Writer × EventStore) := do
  let record ← writer.current
  let writer ← writer.refresh record
  let segment := route hash routingKey writer.segmentCount
  let (offset, events) := events.append writer.incarnation segment event
  note (.eventWritten writer.stream segment offset)
  return (⟨segment, offset⟩, { writer with eventsWritten := writer.eventsWritten + 1 }, events)

/-- Whether the stream's configuration has changed since the writer last saw it, or the stream is no
    longer the one that the writer was opened on. -/
def isStale (writer : Writer) : WriterAction Bool := do
  match ← Lookup.streamInfo writer.stream with
  | none => return true
  | some info =>
    return info.record.generation ≠ writer.generation || info.record.epoch ≠ writer.epoch

end Writer

end StreamCatalog
