import StreamCatalog.DataPath
import StreamCatalog.Proofs.Contents
import StreamCatalog.Proofs.Execution
import StreamCatalog.Store.Faulty

namespace StreamCatalog

def Key.owner : Key → String
  | .scope name => name
  | .stream id => id.scope

def Record.Fits : Record → Key → Prop
  | .scope _, .scope _ | .stream _, .stream _ => True
  | .scope _, .stream _ | .stream _, .scope _ => False

theorem Store.Filed.put {store : Store} {key : Key} {record : Record} (filed : store.Filed)
    (fits : record.Fits key) : (store.put key record).Filed := by
  cases record with
  | scope record =>
    cases key with
    | scope name => exact filed.write (.scope name record)
    | stream id => exact fits.elim
  | stream record =>
    cases key with
    | scope name => exact fits.elim
    | stream id => exact filed.write (.stream id record)

namespace Plan

section Writing

variable {store : Store} {key : Key} {expected : Option Nat} (record : Record)
  (next : Except StoreFailure Nat → Plan α)

theorem run_current (current : store.version? key = expected) :
    (compareAndSet key expected record next).run Store.service store =
      (next (.ok (expected.getD 0 + 1))).run Store.service (store.put key record) := by
  simp only [run, Store.service, Store.compareAndSet_current current]

theorem run_stale (stale : store.version? key ≠ expected) :
    (compareAndSet key expected record next).run Store.service store =
      (next (.error (.versionMismatch key expected (store.version? key)))).run
        Store.service store := by
  simp only [run, Store.service, Store.compareAndSet, if_neg stale]

end Writing

/-- A plan that keeps to these keys, and writes no record of the wrong kind. -/
def Within (allowed : Key → Prop) : Plan α → Prop
  | done _ => True
  | get key next => allowed key ∧ ∀ reply, (next reply).Within allowed
  | compareAndSet key _ record next =>
    allowed key ∧ record.Fits key ∧ ∀ reply, (next reply).Within allowed
  | scopeNames _ => False
  | note _ next => next.Within allowed

namespace Within

variable {allowed : Key → Prop}

theorem bind {plan : Plan α} {rest : α → Plan β} (first : plan.Within allowed)
    (others : ∀ answer, (rest answer).Within allowed) : (plan.bind rest).Within allowed := by
  induction plan with
  | done answer => exact others answer
  | get key next ih => exact ⟨first.1, fun reply => ih reply (first.2 reply)⟩
  | compareAndSet key expected record next ih =>
    exact ⟨first.1, first.2.1, fun reply => ih reply (first.2.2 reply)⟩
  | scopeNames next ih => exact first.elim
  | note notice next ih => exact ih first

theorem sequence {first : ExceptT ε Plan α} {rest : α → ExceptT ε Plan β}
    (within : first.run.Within allowed) (others : ∀ answer, (rest answer).run.Within allowed) :
    (first >>= rest).run.Within allowed := by
  refine bind within fun reply => ?_
  cases reply with
  | ok answer => exact others answer
  | error error => exact True.intro

theorem fetch {fetch : Fetch α} (within : fetch.run.Within allowed) :
    (liftM fetch : Action α).run.Within allowed := bind within fun _ => True.intro

theorem lookUp {fetch : Fetch α} (within : fetch.run.Within allowed) :
    (liftM fetch : WriterAction α).run.Within allowed := bind within fun _ => True.intro

variable {plan : Plan α}

theorem agree (within : plan.Within allowed) {store other : Store}
    (same : ∀ key, allowed key → other.get key = store.get key) :
    (plan.run Store.service other).1 = (plan.run Store.service store).1 ∧
      ∀ key, allowed key → (plan.run Store.service other).2.get key =
        (plan.run Store.service store).2.get key := by
  induction plan generalizing store other with
  | done answer => exact ⟨rfl, same⟩
  | get key next ih =>
    simp only [run, Store.service, same key within.1]
    exact ih _ (within.2 _) same
  | compareAndSet key expected record next ih =>
    have version : other.version? key = store.version? key := by
      rw [Store.version?, Store.version?, same key within.1]
    by_cases current : store.version? key = expected
    · rw [run_current record next current, run_current record next (version.trans current)]
      refine ih _ (within.2.2 _) fun place permitted => ?_
      rw [Store.get_put, Store.get_put, version, same place permitted]
    · rw [run_stale record next current, run_stale record next (version ▸ current), version]
      exact ih _ (within.2.2 _) same
  | scopeNames next ih => exact within.elim
  | note notice next ih => exact ih within same

theorem frame (within : plan.Within allowed) (store : Store) {key : Key} (outside : ¬ allowed key) :
    (plan.run Store.service store).2.get key = store.get key := by
  induction plan generalizing store with
  | done answer => rfl
  | get key next ih => exact ih _ (within.2 _) store
  | compareAndSet place expected record next ih =>
    have elsewhere : place ≠ key := by
      rintro rfl
      exact outside within.1
    by_cases current : store.version? place = expected
    · rw [run_current record next current, ih _ (within.2.2 _), Store.get_put, if_neg elsewhere]
    · rw [run_stale record next current]
      exact ih _ (within.2.2 _) store
  | scopeNames next ih => exact within.elim
  | note notice next ih => exact ih within store

theorem filed (within : plan.Within allowed) {store : Store} (filed : store.Filed) :
    (plan.run Store.service store).2.Filed := by
  induction plan generalizing store with
  | done answer => exact filed
  | get key next ih => exact ih _ (within.2 _) filed
  | compareAndSet key expected record next ih =>
    by_cases current : store.version? key = expected
    · rw [run_current record next current]
      exact ih _ (within.2.2 _) (filed.put within.2.1)
    · rw [run_stale record next current]
      exact ih _ (within.2.2 _) filed
  | scopeNames next ih => exact within.elim
  | note notice next ih => exact ih within filed

end Within

end Plan

namespace Lookup

variable {allowed : Key → Prop}

theorem scopeRecord_within {name : String} (permitted : allowed (.scope name)) :
    (scopeRecord name).run.Within allowed := by
  refine .sequence ⟨permitted, fun _ => True.intro⟩ fun current => ?_
  rcases current with _ | ⟨_ | _, version⟩ <;> exact True.intro

theorem streamRecord_within {stream : StreamId} (permitted : allowed (.stream stream)) :
    (streamRecord stream).run.Within allowed := by
  refine .sequence ⟨permitted, fun _ => True.intro⟩ fun current => ?_
  rcases current with _ | ⟨_ | _, version⟩ <;> exact True.intro

theorem scopeExists_within {name : String} (permitted : allowed (.scope name)) :
    (scopeExists name).run.Within allowed := by
  refine .sequence (scopeRecord_within permitted) fun current => ?_
  cases current <;> exact True.intro

theorem keepActive_within {names : List String}
    (permitted : ∀ name ∈ names, allowed (.scope name)) :
    (keepActive names).run.Within allowed := by
  induction names with
  | nil => exact True.intro
  | cons name rest ih =>
    refine .sequence (scopeExists_within (permitted name List.mem_cons_self)) fun _ => ?_
    exact .sequence (ih fun other member => permitted other (List.mem_cons_of_mem name member))
      fun _ => True.intro

theorem streamInfo_within {stream : StreamId} (permitted : allowed (.stream stream)) :
    (streamInfo stream).run.Within allowed := by
  refine .sequence (streamRecord_within permitted) fun current => ?_
  cases current <;> exact True.intro

end Lookup

namespace Lifecycle

open Lookup

theorem createScope_within (name : String) :
    (createScope name).run.Within (·.owner = name) := by
  refine .sequence (.fetch (scopeRecord_within rfl)) fun current => ?_
  split
  · exact ⟨rfl, True.intro, fun reply => by cases reply <;> exact True.intro⟩
  · exact True.intro
  · exact True.intro

theorem deleteScope_within (name : String) :
    (deleteScope name).run.Within (·.owner = name) := by
  refine .sequence (.fetch (scopeRecord_within rfl)) fun current => ?_
  dsimp only
  split
  · exact ⟨rfl, True.intro, fun reply => by cases reply <;> exact True.intro⟩
  · exact True.intro
  · exact True.intro

theorem createStream_within (nameReuse : Bool) (stream : StreamId) (config : StreamConfig) :
    (createStream nameReuse stream config).run.Within (·.owner = stream.scope) := by
  refine .sequence (.fetch (scopeRecord_within rfl)) fun scope => ?_
  split
  · refine .sequence (.fetch (streamRecord_within rfl)) fun current => ?_
    dsimp only
    split
    · refine ⟨rfl, True.intro, fun reply => ?_⟩
      cases reply with
      | error failure => exact True.intro
      | ok version =>
        refine ⟨rfl, True.intro, fun reply => ?_⟩
        cases reply with
        | ok version => exact True.intro
        | error failure =>
          refine ⟨rfl, True.intro, fun reply => ?_⟩
          cases reply <;> exact True.intro
    · exact True.intro
    · exact True.intro
  · exact True.intro

theorem updateStream_within (nameReuse : Bool) (stream : StreamId) (config : StreamConfig) :
    (updateStream nameReuse stream config).run.Within (·.owner = stream.scope) := by
  refine .sequence (.fetch (streamRecord_within rfl)) fun current => ?_
  dsimp only
  split
  · exact ⟨rfl, True.intro, fun reply => by cases reply <;> exact True.intro⟩
  · exact True.intro
  · exact True.intro

theorem sealStream_within (nameReuse : Bool) (stream : StreamId) :
    (sealStream nameReuse stream).run.Within (·.owner = stream.scope) := by
  refine .sequence (.fetch (streamRecord_within rfl)) fun current => ?_
  dsimp only
  split
  · exact ⟨rfl, True.intro, fun reply => by cases reply <;> exact True.intro⟩
  · exact True.intro
  · exact True.intro

theorem deleteStream_within (nameReuse : Bool) (stream : StreamId) :
    (deleteStream nameReuse stream).run.Within (·.owner = stream.scope) := by
  refine .sequence (.fetch (streamRecord_within rfl)) fun current => ?_
  dsimp only
  split
  · refine .sequence (.fetch (scopeRecord_within rfl)) fun parent => ?_
    refine ⟨rfl, True.intro, fun reply => ?_⟩
    cases reply with
    | error failure => exact True.intro
    | ok version =>
      refine .sequence ?_ fun _ => True.intro
      unfold dismissStream
      split
      · refine ⟨rfl, True.intro, fun reply => ?_⟩
        cases reply with
        | ok version => exact True.intro
        | error failure =>
          refine ⟨rfl, True.intro, fun reply => ?_⟩
          cases reply <;> exact True.intro
      · exact True.intro
  · exact True.intro
  · exact True.intro

end Lifecycle

theorem Operation.plan_within (settings : Settings) (operation : Operation) :
    (operation.plan settings).run.Within (·.owner = operation.scope) := by
  unfold plan
  cases operation.check settings with
  | error error => exact True.intro
  | ok valid =>
    cases operation with
    | createScope name => exact Lifecycle.createScope_within name
    | deleteScope name => exact Lifecycle.deleteScope_within name
    | createStream stream config => exact Lifecycle.createStream_within _ stream config
    | updateStream stream config => exact Lifecycle.updateStream_within _ stream config
    | sealStream stream => exact Lifecycle.sealStream_within _ stream
    | deleteStream stream => exact Lifecycle.deleteStream_within _ stream

namespace Query

open Lookup

def scope? : Query → Option String
  | scopeExists scope | scopeIsEmpty scope | streams scope => some scope
  | scopes => none
  | streamExists stream | streamInfo stream | streamIsActive stream => some stream.scope

theorem plan_within {query : Query} {scope : String} (about : query.scope? = some scope) :
    query.plan.run.Within (·.owner = scope) := by
  cases query with
  | scopes => cases about
  | scopeExists name =>
    cases about
    exact .sequence (.fetch (scopeExists_within rfl)) fun _ => True.intro
  | scopeIsEmpty name =>
    cases about
    refine .sequence (.fetch (.sequence (scopeRecord_within rfl) fun current => ?_))
      fun _ => True.intro
    cases current <;> exact True.intro
  | streams name =>
    cases about
    refine .sequence (.sequence (.fetch (scopeRecord_within rfl)) fun current => ?_)
      fun _ => True.intro
    split <;> exact True.intro
  | streamExists stream =>
    cases about
    refine .sequence (.fetch (.sequence (streamRecord_within rfl) fun current => ?_))
      fun _ => True.intro
    cases current <;> exact True.intro
  | streamInfo stream =>
    cases about
    exact .sequence (.fetch (streamInfo_within rfl)) fun _ => True.intro
  | streamIsActive stream =>
    cases about
    refine .sequence (.fetch (.sequence (streamInfo_within rfl) fun info => ?_))
      fun _ => True.intro
    cases info <;> exact True.intro

end Query

namespace Writer

open Lookup

theorem connect_within (stream : StreamId) :
    (connect stream).run.Within (·.owner = stream.scope) := by
  refine .sequence (.lookUp (streamInfo_within rfl)) fun info => ?_
  split <;> exact True.intro

theorem current_within (writer : Writer) :
    writer.current.run.Within (·.owner = writer.stream.scope) := by
  refine .sequence (.lookUp (streamInfo_within rfl)) fun info => ?_
  split
  · dsimp only
    split <;> exact True.intro
  · exact True.intro

theorem write_within (hash : String → UInt64) (writer : Writer) (events : EventStore)
    (routingKey : String) (event : Payload) :
    (writer.write hash events routingKey event).run.Within (·.owner = writer.stream.scope) := by
  refine .sequence writer.current_within fun record => ?_
  refine .sequence ?_ fun refreshed => True.intro
  unfold refresh
  split <;> exact True.intro

theorem isStale_within (writer : Writer) :
    writer.isStale.run.Within (·.owner = writer.stream.scope) := by
  refine .sequence (.lookUp (streamInfo_within rfl)) fun info => ?_
  cases info <;> exact True.intro

end Writer

/-- Nothing is broken, and no fault is ordered. -/
structure FaultyStore.Calm (world : FaultyStore) : Prop where
  sound : world.poisoned = false
  faultless : world.faults = []

namespace FaultyStore.Calm

variable {world : FaultyStore} (calm : world.Calm)

include calm

theorem get (key : Key) : FaultyStore.get key world = (.ok (world.store.get key), world) := by
  obtain ⟨store, poisoned, faults, notices⟩ := world
  obtain ⟨rfl, rfl⟩ := calm
  rfl

theorem compareAndSet (key : Key) (expected : Option Nat) (record : Record) :
    let reply := Store.service.compareAndSet key expected record world.store
    ∃ later, later.Calm ∧ later.store = reply.2 ∧
      FaultyStore.compareAndSet key expected record world = (reply.1, later) := by
  obtain ⟨store, poisoned, faults, notices⟩ := world
  obtain ⟨rfl, rfl⟩ := calm
  simp only [Store.service, FaultyStore.compareAndSet, FaultyStore.strike, Fault.strike,
    FaultyStore.write, Bool.false_eq_true, if_false]
  cases store.compareAndSet key expected record with
  | ok result => exact ⟨⟨result.2, false, [], notices⟩, ⟨rfl, rfl⟩, rfl, rfl⟩
  | error failure =>
    exact ⟨FaultyStore.report ⟨store, false, [], notices⟩ _, ⟨rfl, rfl⟩, rfl, rfl⟩

theorem report (notice : Notice) : (world.report notice).Calm := ⟨calm.sound, calm.faultless⟩

end FaultyStore.Calm

theorem Plan.Within.run_calm {allowed : Key → Prop} {plan : Plan α} (within : plan.Within allowed)
    {world : FaultyStore} (calm : world.Calm) :
    ∃ later, later.Calm ∧ later.store = (plan.run Store.service world.store).2 ∧
      plan.run FaultyStore.service world = ((plan.run Store.service world.store).1, later) := by
  induction plan generalizing world with
  | done answer => exact ⟨world, calm, rfl, rfl⟩
  | get key next ih =>
    simp only [run, FaultyStore.service, calm.get key]
    exact ih _ (within.2 _) calm
  | compareAndSet key expected record next ih =>
    obtain ⟨later, still, same, reply⟩ := calm.compareAndSet key expected record
    simp only [run, FaultyStore.service, reply, ← same]
    exact ih _ (within.2.2 _) still
  | scopeNames next ih => exact within.elim
  | note notice next ih => exact ih within (calm.report notice)

end StreamCatalog
