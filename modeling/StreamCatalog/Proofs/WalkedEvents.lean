import Mathlib.Logic.Function.Basic
import StreamCatalog.Proofs.Gains
import StreamCatalog.Proofs.Walking

namespace StreamCatalog

def EventStore.contents (events : EventStore) (place : Incarnation × Nat) : Array Payload :=
  events.read place.1 place.2

theorem DataPath.Gains.contents {before later : DataPath} {client : Nat}
    {place : Incarnation × Nat} {event : Payload}
    (gains : before.Gains later client place.1 place.2 event) :
    (later.events client).contents = Function.update (before.events client).contents place
      (((before.events client).contents place).push event) := by
  funext other
  rw [EventStore.contents, gains.read]
  by_cases here : place = other
  · subst here
    rw [if_pos ⟨rfl, rfl, rfl⟩, Function.update_self]
    rfl
  · have elsewhere : ¬ (client = client ∧ place.1 = other.1 ∧ place.2 = other.2) :=
      fun same => here (Prod.ext same.2.1 same.2.2)
    rw [if_neg elsewhere, Function.update_of_ne (Ne.symm here)]
    rfl

def Writer.inStep (stream : StreamId) (record : StreamRecord) (count : Nat) : Writer :=
  { Writer.fresh stream record with eventsWritten := count }

theorem Writer.admission_inStep {stream : StreamId} {record : StreamRecord}
    (active : record.state = .active) (count : Nat) :
    (inStep stream record count).admission none (some record) = .ok record := by
  simp only [admission, active, if_true]
  exact if_pos rfl

theorem Writer.refreshed_inStep (stream : StreamId) (record : StreamRecord) (count : Nat) :
    (inStep stream record count).refreshed record = inStep stream record count := if_pos rfl

namespace Walkthrough

def payloads (count : Nat) : Array Payload :=
  ((List.range count).map fun n => Payload.ofText (toString n)).toArray

theorem size_payloads (count : Nat) : (payloads count).size = count := by
  rw [payloads, List.size_toArray, List.length_map, List.length_range]

theorem payloads_succ (count : Nat) :
    payloads (count + 1) = (payloads count).push (Payload.ofText (toString count)) := by
  simp only [payloads, List.range_succ, List.map_append, List.map_cons, List.map_nil,
    List.push_toArray]

def placeOf (hash : String → UInt64) (stream : StreamId) (record : StreamRecord) :
    Incarnation × Nat :=
  (⟨stream, record.generation⟩, route hash stream.name record.config.segmentCount)

/-- So many of the events have been written, and nothing else has changed since `before`. -/
structure Written (hash : String → UInt64) (stream : StreamId) (record : StreamRecord)
    (before : Catalog) (handle count : Nat) (catalog : Catalog) : Prop where
  store : catalog.store = before.store
  writer : catalog.path.writers[handle]? = some ⟨0, .inStep stream record count⟩
  compact : (catalog.path.events 0).Compact
  contents : (catalog.path.events 0).contents =
    Function.update (before.path.events 0).contents (placeOf hash stream record) (payloads count)

section Events

variable (hash : String → UInt64) {stream : StreamId} {record : StreamRecord} {before : Catalog}
  (filed : before.store.Filed) (found : before.store.stream? stream = some record)
  (active : record.state = .active)

include filed found active

theorem Written.write {handle count : Nat} {catalog : Catalog}
    (written : Written hash stream record before handle count catalog) :
    Succeeds (expect hash Reply.isWritten
      (.write handle stream.name (Payload.ofText (toString count)))) ()
      (Written hash stream record before handle (count + 1)) catalog := by
  let writer := Writer.inStep stream record count
  let event := Payload.ofText (toString count)
  let placed := writer.place hash (catalog.path.events 0) stream.name event
  have performed : catalog.perform hash (.write handle stream.name event) =
      (.written (.ok placed.1), ⟨catalog.store, catalog.path.keepWrite handle 0 placed⟩) := by
    have admitted : writer.admission none (catalog.store.stream? writer.stream) = .ok record := by
      have present : catalog.store.stream? writer.stream = some record :=
        written.store ▸ found
      rw [present, Writer.admission_inStep active]
    rw [catalog.perform_write hash (written.store ▸ filed) written.writer, admitted]
    simp only [Writer.refreshed_inStep]
    rfl
  have put : (writer.refreshed record).place hash (catalog.path.events 0) stream.name event =
      placed := by rw [Writer.refreshed_inStep]
  let writing : OpenWriter := ⟨0, writer⟩
  have puts : writing.writer.Puts (catalog.path.events writing.client) event placed :=
    Writer.puts_of_refreshed put
  have gains : catalog.path.Gains (catalog.path.keepWrite handle 0 placed) 0
      (placeOf hash stream record).1 (placeOf hash stream record).2 event := puts.gains handle
  refine succeeds_expect hash performed rfl
    ⟨written.store, ?_, gains.compact 0 written.compact, ?_⟩
  · rw [DataPath.writers_keepWrite written.writer, if_pos rfl]
    rfl
  · rw [gains.contents, written.contents, Function.update_self, Function.update_idem,
      payloads_succ]

theorem writeEvents_succeeds (compact : (before.path.events 0).Compact)
    (silent : (before.path.events 0).contents (placeOf hash stream record) = #[]) :
    Succeeds (writeEvents hash stream) ()
      (Written hash stream record before before.path.writers.size eventsPerStream) before := by
  have opened := succeeds_ask hash (before.perform_openWriter_active hash filed found active 0)
  refine opened.bind ?_
  rintro _ rfl
  refine Succeeds.forM _ eventsPerStream ?_ fun count _ catalog written =>
    written.write hash filed found active
  refine ⟨rfl, ?_, compact, ?_⟩
  · rw [DataPath.writers_addWriter, if_pos rfl]
    rfl
  · have none : payloads 0 = (before.path.events 0).contents (placeOf hash stream record) :=
      silent.symm
    rw [none, Function.update_eq_self]
    rfl

end Events

end Walkthrough

end StreamCatalog
