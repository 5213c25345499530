import StreamCatalog.Session
import StreamCatalog.Proofs.Answers
import StreamCatalog.Proofs.Course
import StreamCatalog.Proofs.Footprint

namespace StreamCatalog

theorem Turn.run_quiet (hash : String → UInt64) (call : Call) (catalog : Catalog) :
    Turn.run hash ⟨call, fun _ => none⟩ catalog = catalog.perform hash call := by
  have same := Plan.run_steady (catalog.path.perform hash call) { store := catalog.store }
  simp only [Turn.run, Plan.attempt, Catalog.perform, same.1, same.2]

namespace DataPath

variable {path : DataPath}

theorem query_within (hash : String → UInt64) {query : Query} {scope : String}
    (about : query.scope? = some scope) :
    (path.perform hash (.query query)).Within (·.owner = scope) :=
  .bind (query.plan_within about) fun _ => True.intro

theorem openWriter_within (hash : String → UInt64) (client : Nat) (stream : StreamId) :
    (path.perform hash (.openWriter client stream)).Within (·.owner = stream.scope) := by
  refine .bind (Writer.connect_within stream) fun reply => ?_
  cases reply <;> exact True.intro

theorem write_within (hash : String → UInt64) {handle : Nat} {writing : OpenWriter}
    (known : path.writers[handle]? = some writing) (routingKey : String) (event : Payload) :
    (path.perform hash (.write handle routingKey event)).Within
      (·.owner = writing.writer.stream.scope) := by
  simp only [perform, write, known]
  refine .bind (writing.writer.write_within hash _ routingKey event) fun reply => ?_
  cases reply <;> exact True.intro

theorem isStale_within (hash : String → UInt64) {handle : Nat} {opened : OpenWriter}
    (known : path.writers[handle]? = some opened) :
    (path.perform hash (.isStale handle)).Within (·.owner = opened.writer.stream.scope) := by
  simp only [perform, isStale, known]
  exact .bind (.bind opened.writer.isStale_within fun _ => True.intro) fun _ => True.intro

end DataPath

namespace Writer

def outdated (writer : Writer) : Option StreamRecord → Bool
  | none => true
  | some record => record.generation ≠ writer.generation || record.epoch ≠ writer.epoch

theorem run_isStale {store : Store} (filed : store.Filed) (writer : Writer) :
    writer.isStale.run.run Store.service store =
      (.ok (writer.outdated (store.stream? writer.stream)), store) := by
  rw [isStale, run_sequence, run_lookUp, filed.run_streamInfo]
  cases store.stream? writer.stream <;> rfl

def fresh (stream : StreamId) (record : StreamRecord) : Writer :=
  ⟨stream, record.generation, record.epoch, record.config.segmentCount, 0⟩

end Writer

namespace Catalog

variable (hash : String → UInt64) (catalog : Catalog) (filed : catalog.store.Filed)

include filed

theorem perform_openWriter_active {stream : StreamId} {record : StreamRecord}
    (found : catalog.store.stream? stream = some record) (active : record.state = .active)
    (client : Nat) :
    catalog.perform hash (.openWriter client stream) =
      (.opened (.ok catalog.path.writers.size),
        ⟨catalog.store, catalog.path.addWriter ⟨client, .fresh stream record⟩⟩) := by
  obtain ⟨_, config, epoch, generation⟩ := record
  cases active
  rw [← Turn.run_quiet, Turn.run_openWriter hash _ filed, found]
  rfl

theorem perform_openWriter_inactive {stream : StreamId}
    (inactive : ∀ record, catalog.store.stream? stream = some record → record.state ≠ .active)
    (client : Nat) :
    catalog.perform hash (.openWriter client stream) =
      (.opened (.error (.streamNotActive stream)), catalog) := by
  rw [← Turn.run_quiet, Turn.run_openWriter hash _ filed]
  rcases found : catalog.store.stream? stream with _ | ⟨_ | _ | _, config, epoch, generation⟩
  · rfl
  · exact absurd rfl (inactive _ found)
  · rfl
  · rfl

theorem perform_write {handle : Nat} {writing : OpenWriter}
    (known : catalog.path.writers[handle]? = some writing) (routingKey : String) (event : Payload) :
    catalog.perform hash (.write handle routingKey event) =
      match writing.writer.admission none (catalog.store.stream? writing.writer.stream) with
      | .error failure => (.written (.error failure), catalog)
      | .ok record =>
        let placed := (writing.writer.refreshed record).place hash
          (catalog.path.events writing.client) routingKey event
        (.written (.ok placed.1),
          ⟨catalog.store, catalog.path.keepWrite handle writing.client placed⟩) := by
  have quiet := Turn.run_quiet hash (.write handle routingKey event) catalog
  exact quiet.symm.trans (Turn.run_write hash _ filed known routingKey event)

theorem perform_isStale {handle : Nat} {opened : OpenWriter}
    (known : catalog.path.writers[handle]? = some opened) :
    catalog.perform hash (.isStale handle) =
      (.stale (.ok (opened.writer.outdated (catalog.store.stream? opened.writer.stream))),
        catalog) := by
  simp only [perform, DataPath.perform, DataPath.isStale, known, run_then,
    Writer.run_isStale filed]
  rfl

end Catalog

theorem FaultyStore.Calm.run_scopes {world : FaultyStore} (calm : world.Calm)
    (filed : world.store.Filed) :
    ∃ (later : FaultyStore) (names : List String), later.Calm ∧ later.store = world.store ∧
      (∀ name, name ∈ names ↔ name ∈ world.store.activeScopes) ∧
      Lookup.scopes.run.run FaultyStore.service world = (.ok names, later) := by
  have listed : Fetch.scopeNames.run.run FaultyStore.service world =
      (.ok world.store.scopeNames.reverse, world) := by
    obtain ⟨store, poisoned, faults, notices⟩ := world
    obtain ⟨rfl, rfl⟩ := calm
    rfl
  have anywhere : (Lookup.keepActive world.store.scopeNames.reverse).run.Within fun _ => True :=
    Lookup.keepActive_within fun _ _ => True.intro
  obtain ⟨later, still, same, ran⟩ := anywhere.run_calm calm
  rw [filed.run_keepActive] at same ran
  let active := world.store.scopeNames.reverse.filter fun name =>
    (world.store.scope? name).any (·.state = .active)
  refine ⟨later, active.mergeSort, still, same, fun name => ?_, ?_⟩
  · simp [active, Store.activeScopes]
  · rw [Lookup.scopes, run_sequence, listed]
    simp only
    rw [run_sequence, ran]
    rfl

theorem FaultyStore.Calm.reports {world : FaultyStore} (calm : world.Calm) (notices : List Notice) :
    (notices.foldl FaultyStore.report world).Calm ∧
      (notices.foldl FaultyStore.report world).store = world.store := by
  induction notices generalizing world with
  | nil => exact ⟨calm, rfl⟩
  | cons notice rest ih => exact ih (calm.report notice)

namespace Controller

variable (controller : Controller) (operation : Operation)

theorem settings_enter : (controller.enter operation).settings = controller.settings := by
  unfold enter
  split <;> rfl

theorem settings_leave (result : Except Error Bool) :
    (controller.leave operation result).2.settings = controller.settings := by
  unfold leave
  split <;> rfl

end Controller

namespace Session

def writer? (session : Session) (name : String) : Option OpenWriter :=
  (session.handles[name]?).bind (session.path.writers[·]?)

/-- Nothing is broken, and each name has a writer of its own. -/
structure Orderly (session : Session) : Prop where
  calm : session.world.Calm
  filed : session.world.store.Filed
  bounded : ∀ (name : String) (handle : Nat), session.handles[name]? = some handle →
    handle < session.path.writers.size
  apart : ∀ (name other : String) (handle : Nat), session.handles[name]? = some handle →
    session.handles[other]? = some handle → name = other

def catalog (session : Session) : Catalog := ⟨session.world.store, session.path⟩

section Calls

variable (hash : String → UInt64) {session : Session}

theorem call_of_within (calm : session.world.Calm) {call : Call} {allowed : Key → Prop}
    (within : (session.path.perform hash call).Within allowed) :
    ∃ world : FaultyStore, world.Calm ∧
      world.store = (session.catalog.perform hash call).2.store ∧
      session.call hash call = ((session.catalog.perform hash call).1,
        { session with world, path := (session.catalog.perform hash call).2.path }) := by
  obtain ⟨world, still, same, ran⟩ := within.run_calm calm
  refine ⟨world, still, same, ?_⟩
  simp only [Session.call, run, ran]
  rfl

theorem call_of_unchanged (calm : session.world.Calm) {call : Call} {allowed : Key → Prop}
    {reply : Reply} (within : (session.path.perform hash call).Within allowed)
    (unchanged : session.catalog.perform hash call = (reply, session.catalog)) :
    ∃ world : FaultyStore, world.Calm ∧ world.store = session.world.store ∧
      session.call hash call = (reply, { session with world }) := by
  obtain ⟨world, still, same, called⟩ := call_of_within hash calm within
  rw [unchanged] at same called
  exact ⟨world, still, same, called⟩

theorem operate_eq (calm : session.world.Calm) (index : Nat) (operation : Operation) :
    let done := session.world.store.operate (session.controller index).settings operation
    ∃ (world : FaultyStore) (controllers : Array Controller), world.Calm ∧ world.store = done.2 ∧
      (∀ other, (controllers.getD other {}).settings = (session.controller other).settings) ∧
      session.operate index operation = (done.1, { session with world, controllers }) := by
  have settings := (session.controller index).settings_enter operation
  obtain ⟨world, still, same, ran⟩ :=
    (operation.plan_within (session.controller index).settings).run_calm calm
  let left := ((session.controller index).enter operation).leave operation
    (session.world.store.operate (session.controller index).settings operation).1
  have reported := still.reports left.1
  refine ⟨left.1.foldl FaultyStore.report world, session.controllers.setIfInBounds index left.2,
    reported.1, reported.2.trans same, fun other => ?_, ?_⟩
  · have kept : left.2.settings = (session.controller index).settings :=
      (Controller.settings_leave ..).trans settings
    simp only [controller, Array.getD_eq_getD_getElem?, Array.getElem?_setIfInBounds] at kept ⊢
    by_cases here : index = other
    · subst here
      by_cases inside : index < session.controllers.size
      · simpa [inside] using kept
      · simp [inside]
    · simp [here]
  · simp only [operate, run, settings, ran]
    rfl

def withOpened (session : Session) (name : String) (opened : OpenWriter) : Session :=
  { session with
    path := session.path.addWriter opened
    handles := session.handles.insert name session.path.writers.size }

def withWrite (session : Session) (handle client : Nat) (placed : Position × Writer × EventStore) :
    Session :=
  { session with path := session.path.keepWrite handle client placed }

theorem withWriter_unbound {name : String} (unbound : session.handles[name]? = none)
    (callOf : Nat → Call) :
    session.withWriter hash name callOf = (.call .noWriter, session) := by
  simp only [withWriter, unbound]

theorem perform_read (session : Session) (client : Nat) (incarnation : Incarnation)
    (segment : Nat) :
    session.perform hash (.read client incarnation segment) =
      (.call (.events ((session.path.events client).read incarnation segment)), session) := rfl

theorem perform_countEvents (session : Session) (client : Nat) (incarnation : Incarnation) :
    session.perform hash (.countEvents client incarnation) =
      (.call (.counted ((session.path.events client).count incarnation)), session) := rfl

theorem perform_usedSegments (session : Session) (client : Nat) (incarnation : Incarnation) :
    session.perform hash (.usedSegments client incarnation) =
      (.call (.usedSegments ((session.path.events client).usedSegments incarnation)), session) :=
  rfl

variable (orderly : session.Orderly)

include orderly

theorem perform_query {query : Query} {scope : String} (about : query.scope? = some scope) :
    ∃ world : FaultyStore, world.Calm ∧ world.store = session.world.store ∧
      session.perform hash (.query query) =
        (.call (.query (session.world.store.answer query)), { session with world }) := by
  have kept : session.catalog.perform hash (.query query) =
      (.query (session.world.store.answer query), session.catalog) := by
    simp only [Catalog.perform, DataPath.perform, run_then]
    have filed : session.catalog.store.Filed := orderly.filed
    rw [filed.run_query]
    rfl
  obtain ⟨world, calm, same, called⟩ := call_of_unchanged hash orderly.calm
    (DataPath.query_within hash about) kept
  exact ⟨world, calm, same, by simp only [perform, plainCall, called]⟩

theorem perform_scopes :
    ∃ (world : FaultyStore) (names : List String), world.Calm ∧
      world.store = session.world.store ∧
      (∀ name, name ∈ names ↔ name ∈ session.world.store.activeScopes) ∧
      session.perform hash (.query .scopes) =
        (.call (.query (.ok (.names names))), { session with world }) := by
  obtain ⟨world, names, calm, same, active, ran⟩ := orderly.calm.run_scopes orderly.filed
  refine ⟨world, names, calm, same, active, ?_⟩
  simp only [perform, plainCall, Session.call, Session.run, DataPath.perform, run_then, Query.plan,
    run_sequence, run_fetch, ran]
  rfl

theorem perform_openWriter_active {stream : StreamId} {record : StreamRecord}
    (found : session.world.store.stream? stream = some record) (active : record.state = .active)
    (client : Nat) (name : String) :
    ∃ world : FaultyStore, world.Calm ∧ world.store = session.world.store ∧
      session.perform hash (.openWriter client name stream) = (.writer (.fresh stream record),
        { session.withOpened name ⟨client, .fresh stream record⟩ with world }) := by
  have opened := session.catalog.perform_openWriter_active hash orderly.filed found active client
  obtain ⟨world, calm, same, called⟩ := call_of_within hash orderly.calm
    (DataPath.openWriter_within hash client stream)
  rw [opened] at same called
  refine ⟨world, calm, same, ?_⟩
  have found : (session.catalog.path.addWriter ⟨client, .fresh stream record⟩).writers[
      session.catalog.path.writers.size]? = some ⟨client, .fresh stream record⟩ := by
    rw [DataPath.writers_addWriter, if_pos rfl]
  simp only [perform, openWriter, called, writerOf, found]
  rfl

theorem perform_openWriter_inactive {stream : StreamId}
    (inactive : ∀ record, session.world.store.stream? stream = some record →
      record.state ≠ .active) (client : Nat) (name : String) :
    ∃ world : FaultyStore, world.Calm ∧ world.store = session.world.store ∧
      session.perform hash (.openWriter client name stream) =
        (.call (.opened (.error (.streamNotActive stream))), { session with world }) := by
  have refused := session.catalog.perform_openWriter_inactive hash orderly.filed inactive client
  obtain ⟨world, calm, same, called⟩ := call_of_unchanged hash orderly.calm
    (DataPath.openWriter_within hash client stream) refused
  exact ⟨world, calm, same, by simp only [perform, openWriter, called]⟩

theorem perform_write {name : String} {handle : Nat} {writing : OpenWriter}
    (bound : session.handles[name]? = some handle)
    (known : session.path.writers[handle]? = some writing) (routingKey : String)
    (event : Payload) :
    ∃ world : FaultyStore, world.Calm ∧ world.store = session.world.store ∧
      session.perform hash (.write name routingKey event) =
        match writing.writer.admission none
          (session.world.store.stream? writing.writer.stream) with
        | .error failure => (.call (.written (.error failure)), { session with world })
        | .ok record =>
          let placed := (writing.writer.refreshed record).place hash
            (session.path.events writing.client) routingKey event
          (.call (.written (.ok placed.1)),
            { session.withWrite handle writing.client placed with world }) := by
  have written := session.catalog.perform_write hash orderly.filed known routingKey event
  obtain ⟨world, calm, same, called⟩ := call_of_within hash orderly.calm
    (DataPath.write_within hash known routingKey event)
  rw [written] at same called
  simp only [catalog] at same called
  generalize writing.writer.admission none
    (session.world.store.stream? writing.writer.stream) = admitted at same called ⊢
  cases admitted with
  | error failure =>
    exact ⟨world, calm, same, by simp only [perform, withWriter, bound, called]⟩
  | ok record =>
    exact ⟨world, calm, same, by simp only [perform, withWriter, bound, called]; rfl⟩

theorem perform_isStale {name : String} {handle : Nat} {opened : OpenWriter}
    (bound : session.handles[name]? = some handle)
    (known : session.path.writers[handle]? = some opened) :
    ∃ world : FaultyStore, world.Calm ∧ world.store = session.world.store ∧
      session.perform hash (.isStale name) =
        (.call (.stale (.ok (opened.writer.outdated
          (session.world.store.stream? opened.writer.stream)))), { session with world }) := by
  have judged := session.catalog.perform_isStale hash orderly.filed known
  obtain ⟨world, calm, same, called⟩ := call_of_unchanged hash orderly.calm
    (DataPath.isStale_within hash known) judged
  exact ⟨world, calm, same, by simp only [perform, withWriter, bound, called]; rfl⟩

end Calls

end Session

end StreamCatalog
