import StreamCatalog.Catalog
import StreamCatalog.Proofs.Reading
import StreamCatalog.Proofs.Run
import StreamCatalog.Proofs.Writing

namespace StreamCatalog

/-- A call, and which of the store calls it makes fail. -/
structure Turn where
  call : Call
  outages : Outages

def Turn.run (hash : String → UInt64) (turn : Turn) (catalog : Catalog) : Reply × Catalog :=
  let done := (catalog.path.perform hash turn.call).attempt turn.outages catalog.store
  (done.1.1, ⟨done.2.store, done.1.2⟩)

/-- Whether a reply tells of nothing that the call has changed. -/
def Reply.Silent : Reply → Prop
  | .lifecycle _ | .opened (.ok _) | .written (.ok _) | .appended _ => False
  | _ => True

namespace DataPath

def addWriter (path : DataPath) (opened : OpenWriter) : DataPath :=
  { path with writers := path.writers.push opened }

def keepWrite (path : DataPath) (handle client : Nat) (placed : Position × Writer × EventStore) :
    DataPath :=
  { path.setEvents client placed.2.2 with
    writers := path.writers.setIfInBounds handle ⟨client, placed.2.1⟩ }

theorem events_setEvents (path : DataPath) (client other : Nat) (events : EventStore) :
    (path.setEvents client events).events other =
      if client = other then events else path.events other := by
  by_cases same : client = other <;>
    simp [setEvents, DataPath.events, Std.ExtTreeMap.getD_insert, same]

theorem events_keepWrite (path : DataPath) (handle client other : Nat)
    (placed : Position × Writer × EventStore) :
    (path.keepWrite handle client placed).events other =
      if client = other then placed.2.2 else path.events other :=
  path.events_setEvents client other placed.2.2

theorem writers_addWriter (path : DataPath) (opened : OpenWriter) (handle : Nat) :
    (path.addWriter opened).writers[handle]? =
      if handle = path.writers.size then some opened else path.writers[handle]? :=
  Array.getElem?_push

theorem writers_keepWrite {path : DataPath} {handle : Nat} {writing : OpenWriter}
    (known : path.writers[handle]? = some writing) (client other : Nat)
    (placed : Position × Writer × EventStore) :
    (path.keepWrite handle client placed).writers[other]? =
      if handle = other then some ⟨client, placed.2.1⟩ else path.writers[other]? := by
  have inside : handle < path.writers.size := (Array.getElem?_eq_some_iff.mp known).1
  simp only [keepWrite, Array.getElem?_setIfInBounds, inside, if_true]

end DataPath

/-- What a call may come to. -/
inductive Step (hash : String → UInt64) (catalog : Catalog) : Call → Reply → Catalog → Prop where
  | operated (attempt : Attempt) :
    Step hash catalog (.lifecycle attempt.settings attempt.operation)
      (.lifecycle (attempt.run catalog.store).1) ⟨attempt.after catalog.store, catalog.path⟩
  | opened {client : Nat} {stream : StreamId} {record : StreamRecord}
      (found : catalog.store.stream? stream = some record) (active : record.state = .active) :
    Step hash catalog (.openWriter client stream) (.opened (.ok catalog.path.writers.size))
      ⟨catalog.store, catalog.path.addWriter ⟨client,
        ⟨stream, record.generation, record.epoch, record.config.segmentCount, 0⟩⟩⟩
  | wrote {handle : Nat} {routingKey : String} {event : Payload} {writing : OpenWriter}
      {record : StreamRecord} {placed : Position × Writer × EventStore}
      (known : catalog.path.writers[handle]? = some writing)
      (found : catalog.store.stream? writing.writer.stream = some record)
      (active : record.state = .active) (same : record.generation = writing.writer.generation)
      (put : (writing.writer.refreshed record).place hash (catalog.path.events writing.client)
        routingKey event = placed) :
    Step hash catalog (.write handle routingKey event) (.written (.ok placed.1))
      ⟨catalog.store, catalog.path.keepWrite handle writing.client placed⟩
  | appended {client : Nat} {incarnation : Incarnation} {segment : Nat} {event : Payload} :
    Step hash catalog (.append client incarnation segment event)
      (.appended ((catalog.path.events client).append incarnation segment event).1)
      ⟨catalog.store, catalog.path.setEvents client
        ((catalog.path.events client).append incarnation segment event).2⟩
  | idle {call : Call} {reply : Reply} (silent : reply.Silent) :
    Step hash catalog call reply catalog

namespace Turn

variable (hash : String → UInt64) (outages : Outages) (catalog : Catalog)

theorem run_lifecycle (settings : Settings) (operation : Operation) :
    run hash ⟨.lifecycle settings operation, outages⟩ catalog =
      (.lifecycle (Attempt.run ⟨settings, operation, outages⟩ catalog.store).1,
        ⟨Attempt.after ⟨settings, operation, outages⟩ catalog.store, catalog.path⟩) := by
  simp only [run, Plan.attempt, DataPath.perform, run_then]
  rfl

theorem run_query (query : Query) :
    run hash ⟨.query query, outages⟩ catalog =
      (.query (query.plan.run.attempt outages catalog.store).1, catalog) := by
  have same := query.plan_readsOnly.run outages { store := catalog.store }
  simp only [run, Plan.attempt, DataPath.perform, run_then]
  exact Prod.ext rfl (congrArg (Catalog.mk · catalog.path) same)

variable {catalog} (filed : catalog.store.Filed)

include filed

theorem run_openWriter (client : Nat) (stream : StreamId) :
    run hash ⟨.openWriter client stream, outages⟩ catalog =
      match outages 0, catalog.store.stream? stream with
      | some text, _ => (.opened (.error (.control (.store (.unavailable text)))), catalog)
      | none, some ⟨.active, config, epoch, generation⟩ =>
        (.opened (.ok catalog.path.writers.size), ⟨catalog.store, catalog.path.addWriter ⟨client,
          ⟨stream, generation, epoch, config.segmentCount, 0⟩⟩⟩)
      | none, _ => (.opened (.error (.streamNotActive stream)), catalog) := by
  have start : (UnsteadyStore.mk catalog.store 0 []).store.Filed := filed
  simp only [run, Plan.attempt, DataPath.perform, DataPath.openWriter, run_then,
    Writer.run_connect outages start]
  cases outages 0 with
  | some text => rfl
  | none =>
    rcases catalog.store.stream? stream with _ | ⟨_ | _ | _, config, epoch, generation⟩ <;> rfl

theorem run_write {handle : Nat} {writing : OpenWriter}
    (known : catalog.path.writers[handle]? = some writing) (routingKey : String) (event : Payload) :
    run hash ⟨.write handle routingKey event, outages⟩ catalog =
      match writing.writer.admission (outages 0)
        (catalog.store.stream? writing.writer.stream) with
      | .error failure => (.written (.error failure), catalog)
      | .ok record =>
        let placed := (writing.writer.refreshed record).place hash
          (catalog.path.events writing.client) routingKey event
        (.written (.ok placed.1),
          ⟨catalog.store, catalog.path.keepWrite handle writing.client placed⟩) := by
  have start : (UnsteadyStore.mk catalog.store 0 []).store.Filed := filed
  simp only [run, Plan.attempt, DataPath.perform, DataPath.write, known, run_then,
    Writer.run_write outages start]
  cases writing.writer.admission (outages 0) (catalog.store.stream? writing.writer.stream) <;> rfl

theorem run_isStale {handle : Nat} {opened : OpenWriter}
    (known : catalog.path.writers[handle]? = some opened) :
    ∃ result, run hash ⟨.isStale handle, outages⟩ catalog = (.stale result, catalog) := by
  have start : (UnsteadyStore.mk catalog.store 0 []).store.Filed := filed
  simp only [run, Plan.attempt, DataPath.perform, DataPath.isStale, known, run_then]
  rw [Writer.isStale, run_sequence, run_lookUp, UnsteadyStore.run_streamInfo outages start]
  cases outages 0 with
  | some text => exact ⟨_, rfl⟩
  | none =>
    cases catalog.store.stream? opened.writer.stream <;> exact ⟨_, rfl⟩

theorem step (turn : Turn) :
    Step hash catalog turn.call (turn.run hash catalog).1 (turn.run hash catalog).2 := by
  obtain ⟨call, outages⟩ := turn
  cases call with
  | lifecycle settings operation =>
    rw [run_lifecycle]
    exact .operated ⟨settings, operation, outages⟩
  | query query =>
    rw [run_query]
    exact .idle True.intro
  | openWriter client stream =>
    rw [run_openWriter hash outages filed]
    cases outages 0 with
    | some text => exact .idle True.intro
    | none =>
      rcases found : catalog.store.stream? stream with _ | ⟨_ | _ | _, config, epoch, generation⟩
      · exact .idle True.intro
      · exact .opened found rfl
      · exact .idle True.intro
      · exact .idle True.intro
  | write handle routingKey event =>
    cases known : catalog.path.writers[handle]? with
    | none =>
      have unknown : run hash ⟨.write handle routingKey event, outages⟩ catalog =
          (.noWriter, catalog) := by
        simp only [run, Plan.attempt, DataPath.perform, DataPath.write, known]
        rfl
      rw [unknown]
      exact .idle True.intro
    | some writing =>
      rw [run_write hash outages filed known]
      cases admitted : writing.writer.admission (outages 0)
          (catalog.store.stream? writing.writer.stream) with
      | error failure => exact .idle True.intro
      | ok record =>
        obtain ⟨-, found, active, same⟩ := Writer.admission_ok admitted
        exact .wrote known found active same rfl
  | isStale handle =>
    cases known : catalog.path.writers[handle]? with
    | none =>
      have unknown : run hash ⟨.isStale handle, outages⟩ catalog = (.noWriter, catalog) := by
        simp only [run, Plan.attempt, DataPath.perform, DataPath.isStale, known]
        rfl
      rw [unknown]
      exact .idle True.intro
    | some opened =>
      obtain ⟨result, asked⟩ := run_isStale hash outages filed known
      rw [asked]
      exact .idle True.intro
  | append client incarnation segment event => exact .appended
  | read client incarnation segment => exact .idle True.intro
  | countEvents client incarnation => exact .idle True.intro
  | usedSegments client incarnation => exact .idle True.intro

end Turn

structure Entry where
  before : Catalog
  call : Call
  reply : Reply

def Turn.entry (hash : String → UInt64) (turn : Turn) (catalog : Catalog) : Entry :=
  ⟨catalog, turn.call, (turn.run hash catalog).1⟩

def Turn.after (hash : String → UInt64) (turn : Turn) (catalog : Catalog) : Catalog :=
  (turn.run hash catalog).2

def Turn.inOrder (run : Turn → Catalog → Reply × Catalog) :
    List Turn → Catalog → List Entry × Catalog
  | [], catalog => ([], catalog)
  | turn :: rest, catalog =>
    let first := run turn catalog
    let others := inOrder run rest first.2
    (⟨catalog, turn.call, first.1⟩ :: others.1, others.2)

/-- The catalogues that can be reached from a first one, with the calls made, the latest first. -/
inductive Course (hash : String → UInt64) (start : Catalog) : List Entry → Catalog → Prop where
  | start : Course hash start [] start
  | turn {past : List Entry} {catalog : Catalog} (course : Course hash start past catalog)
      (turn : Turn) : Course hash start (turn.entry hash catalog :: past) (turn.after hash catalog)

namespace Step

variable {hash : String → UInt64} {catalog later : Catalog} {call : Call} {reply : Reply}

theorem store (step : Step hash catalog call reply later) :
    later.store = catalog.store ∨ ∃ attempt : Attempt,
      call = .lifecycle attempt.settings attempt.operation ∧
      reply = .lifecycle (attempt.run catalog.store).1 ∧
      later.store = attempt.after catalog.store := by
  cases step with
  | operated attempt => exact .inr ⟨attempt, rfl, rfl, rfl⟩
  | opened found active => exact .inl rfl
  | wrote known found active same put => exact .inl rfl
  | appended => exact .inl rfl
  | idle silent => exact .inl rfl

theorem filed (step : Step hash catalog call reply later) (filed : catalog.store.Filed) :
    later.store.Filed := by
  rcases step.store with same | ⟨attempt, -, -, same⟩
  · rwa [same]
  · rw [same]
    exact attempt.filed filed

end Step

namespace Course

variable {hash : String → UInt64} {start catalog later : Catalog} {past more : List Entry}

theorem append (course : Course hash start past catalog) (rest : Course hash catalog more later) :
    Course hash start (more ++ past) later := by
  induction rest with
  | start => exact course
  | turn rest turn ih => exact ih.turn turn

theorem inOrder (course : Course hash start past catalog) (turns : List Turn) :
    Course hash start ((Turn.inOrder (Turn.run hash) turns catalog).1.reverse ++ past)
      (Turn.inOrder (Turn.run hash) turns catalog).2 := by
  induction turns generalizing past catalog with
  | nil => exact course
  | cons turn rest ih =>
    have longer := ih (course.turn turn)
    simp only [Turn.inOrder, List.reverse_cons, List.append_assoc, List.singleton_append]
    exact longer

/-- What every step hands on from the calls before it to those with it holds after a course. -/
theorem outlives (course : Course hash start past catalog) (filed : start.store.Filed)
    (holds : List Entry → Catalog → Prop) (first : holds [] start)
    (each : ∀ past catalog call reply later, catalog.store.Filed →
      Step hash catalog call reply later → holds past catalog →
      holds (⟨catalog, call, reply⟩ :: past) later) : holds past catalog := by
  -- A step can be inverted only where the store is in order, so this goes along.
  have both : catalog.store.Filed ∧ holds past catalog := by
    induction course with
    | start => exact ⟨filed, first⟩
    | turn course turn ih =>
      obtain ⟨filed, held⟩ := ih
      have step := Turn.step hash filed turn
      exact ⟨step.filed filed, each _ _ _ _ _ filed step held⟩
  exact both.2

theorem filed (course : Course hash start past catalog) (filed : start.store.Filed) :
    catalog.store.Filed :=
  course.outlives filed (fun _ catalog => catalog.store.Filed) filed
    fun _ _ _ _ _ filed step _ => step.filed filed

end Course

end StreamCatalog
