import StreamCatalog.Proofs.Outage
import StreamCatalog.Writer

namespace StreamCatalog

theorem run_lookUp {σ : Type} (service : Service σ) (fetch : Fetch α) (world : σ) :
    (liftM fetch : WriterAction α).run.run service world =
      (match (fetch.run.run service world).1 with
        | .ok found => .ok found
        | .error failure => .error (.control (.store failure)),
        (fetch.run.run service world).2) := by
  refine (Plan.run_bind service fetch _ world).trans ?_
  have ran : fetch.run.run service world = Plan.run service fetch world := rfl
  rw [ran]
  rcases Plan.run service fetch world with ⟨_ | _, later⟩ <;> rfl

namespace UnsteadyStore

theorem run_streamInfo (outages : Outages) {world : UnsteadyStore} (filed : world.store.Filed)
    (stream : StreamId) :
    (Lookup.streamInfo stream).run.run (service outages) world =
      match outages world.calls with
      | some text => (.error (.unavailable text), world.next)
      | none => (.ok ((world.store.stream? stream).map (⟨stream, ·⟩)), world.next) := by
  obtain ⟨current, read, found⟩ := filed.readStream stream
  rw [Lookup.streamInfo, run_sequence, run_streamRecord]
  cases outages world.calls with
  | some text => rfl
  | none =>
    simp only [read, found]
    cases current <;> rfl

end UnsteadyStore

namespace Writer

/-- Whether a writer may write, by what it finds when it looks up its stream. If that fails, it is
    given with which text. -/
def admission (writer : Writer) (outage : Option String) (found : Option StreamRecord) :
    Except WriteError StreamRecord :=
  match outage, found with
  | some text, _ => .error (.control (.store (.unavailable text)))
  | none, none => .error (.streamSealed writer.stream)
  | none, some record =>
    if record.state = .active then
      if record.generation = writer.generation then .ok record
      else .error (.streamRecreated writer.stream)
    else .error (.streamSealed writer.stream)

def reloaded (writer : Writer) (record : StreamRecord) : Writer :=
  { writer with epoch := record.epoch, segmentCount := record.config.segmentCount }

def refreshed (writer : Writer) (record : StreamRecord) : Writer :=
  if record.epoch = writer.epoch then writer else writer.reloaded record

def place (hash : String → UInt64) (writer : Writer) (events : EventStore) (routingKey : String)
    (event : Payload) : Position × Writer × EventStore :=
  let segment := route hash routingKey writer.segmentCount
  let appended := events.append writer.incarnation segment event
  (⟨segment, appended.1⟩, { writer with eventsWritten := writer.eventsWritten + 1 }, appended.2)

/-- What a write that goes through makes of the events and of the writer. -/
structure Puts (writer : Writer) (events : EventStore) (event : Payload)
    (placed : Position × Writer × EventStore) : Prop where
  offset : placed.1.offset = (events.read writer.incarnation placed.1.segment).size
  events : placed.2.2 = (events.append writer.incarnation placed.1.segment event).2
  incarnation : placed.2.1.incarnation = writer.incarnation
  counted : placed.2.1.eventsWritten = writer.eventsWritten + 1

variable {writer : Writer}

theorem puts_of_refreshed {hash : String → UInt64} {events : EventStore} {routingKey : String}
    {event : Payload} {record : StreamRecord} {placed : Position × Writer × EventStore}
    (put : (writer.refreshed record).place hash events routingKey event = placed) :
    writer.Puts events event placed := by
  have kept : (writer.refreshed record).incarnation = writer.incarnation ∧
      (writer.refreshed record).eventsWritten = writer.eventsWritten := by
    unfold refreshed
    split <;> exact ⟨rfl, rfl⟩
  obtain ⟨incarnation, written⟩ := kept
  subst put
  refine ⟨?_, ?_, incarnation, congrArg (· + 1) written⟩
  · rw [← incarnation]
    rfl
  · rw [← incarnation]
    rfl

theorem admission_ok {outage : Option String} {found : Option StreamRecord} {record : StreamRecord}
    (admitted : writer.admission outage found = .ok record) :
    outage = none ∧ found = some record ∧ record.state = .active ∧
      record.generation = writer.generation := by
  unfold admission at admitted
  split at admitted
  · cases admitted
  · cases admitted
  · split at admitted
    · rename_i active
      split at admitted
      · rename_i same
        cases admitted
        exact ⟨rfl, rfl, active, same⟩
      · cases admitted
    · cases admitted

theorem run_refresh (outages : Outages) (world : UnsteadyStore) (writer : Writer)
    (record : StreamRecord) :
    (writer.refresh record).run.run (UnsteadyStore.service outages) world =
      (.ok (writer.refreshed record), world) := by
  unfold refresh refreshed
  split <;> rfl

variable (outages : Outages) {world : UnsteadyStore} (filed : world.store.Filed)

include filed

theorem run_current (writer : Writer) :
    writer.current.run.run (UnsteadyStore.service outages) world =
      (writer.admission (outages world.calls) (world.store.stream? writer.stream), world.next) := by
  rw [current, run_sequence, run_lookUp, UnsteadyStore.run_streamInfo outages filed]
  cases outages world.calls with
  | some text => rfl
  | none =>
    rcases world.store.stream? writer.stream with _ | ⟨_ | _ | _, config, epoch, generation⟩
    · rfl
    · by_cases same : generation = writer.generation
      · simp only [admission, Option.map_some, Option.filter_some, decide_true, ne_eq, same,
          not_true_eq_false, if_true, if_false]
        rfl
      · simp only [admission, Option.map_some, Option.filter_some, decide_true, ne_eq, same,
          not_false_eq_true, if_true, if_false]
        rfl
    · rfl
    · rfl

theorem run_write (hash : String → UInt64) (writer : Writer) (events : EventStore)
    (routingKey : String) (event : Payload) :
    (writer.write hash events routingKey event).run.run (UnsteadyStore.service outages) world =
      ((writer.admission (outages world.calls) (world.store.stream? writer.stream)).map
        fun record => (writer.refreshed record).place hash events routingKey event,
        world.next) := by
  rw [write, run_sequence, run_current outages filed]
  cases writer.admission (outages world.calls) (world.store.stream? writer.stream) with
  | error failure => rfl
  | ok record =>
    simp only
    rw [run_sequence, run_refresh]
    rfl

theorem run_connect (stream : StreamId) :
    (connect stream).run.run (UnsteadyStore.service outages) world =
      (match outages world.calls, world.store.stream? stream with
        | some text, _ => .error (.control (.store (.unavailable text)))
        | none, some ⟨.active, config, epoch, generation⟩ =>
          .ok ⟨stream, generation, epoch, config.segmentCount, 0⟩
        | none, _ => .error (.streamNotActive stream), world.next) := by
  rw [connect, run_sequence, run_lookUp, UnsteadyStore.run_streamInfo outages filed]
  cases outages world.calls with
  | some text => rfl
  | none =>
    rcases world.store.stream? stream with _ | ⟨_ | _ | _, config, epoch, generation⟩ <;> rfl

end Writer

end StreamCatalog
