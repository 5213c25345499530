import StreamCatalog.Proofs.Outage
import StreamCatalog.Proofs.Verdict

namespace StreamCatalog

/-- How an operation may end: its verdict is carried out, or a call fails before anything is
    written, or the second of two writes fails and the first is taken back, or that fails too. -/
inductive Outcome (outages : Outages) (store : Store) (verdict : Verdict) :
    Except Error Bool × UnsteadyStore → Prop where
  | done (calls : Nat) :
    Outcome outages store verdict (verdict.result, ⟨verdict.apply store, calls, []⟩)
  | lost {text : String} {call : Nat} (failed : outages call = some text) (calls : Nat)
      (keys : List Key) (few : keys.length ≤ 1) :
    Outcome outages store verdict (.error (.store (.unavailable text)), ⟨store, calls, keys⟩)
  | undone {text : String} {call : Nat} (failed : outages call = some text)
      {first undo second : Write} (two : verdict = .both first undo second) (calls : Nat) :
    Outcome outages store verdict (.error (.store (.unavailable text)),
      ⟨(store.write first).write undo, calls, [second.key]⟩)
  | stranded {text : String} {call : Nat} (failed : outages call = some text)
      {first undo second : Write} (two : verdict = .both first undo second) (calls : Nat) :
    Outcome outages store verdict (.error (.store (.unavailable text)),
      ⟨store.write first, calls, [second.key, undo.key]⟩)

namespace UnsteadyStore

open Lifecycle

variable (outages : Outages) {world : UnsteadyStore}

theorem run_putScope {name : String} {expected : Option Nat}
    (current : world.store.version? (.scope name) = expected) (record : ScopeRecord) :
    (putScope name expected record).run.run (service outages) world =
      match outages world.calls with
      | some text => (.error (.unavailable text), world.lose (.scope name))
      | none => (.ok (expected.getD 0 + 1), world.commit (.scope name) (.scope record)) :=
  run_compareAndSet outages world current (.scope record)

theorem run_putStream {stream : StreamId} {expected : Option Nat}
    (current : world.store.version? (.stream stream) = expected) (record : StreamRecord) :
    (putStream stream expected record).run.run (service outages) world =
      match outages world.calls with
      | some text => (.error (.unavailable text), world.lose (.stream stream))
      | none => (.ok (expected.getD 0 + 1), world.commit (.stream stream) (.stream record)) :=
  run_compareAndSet outages world current (.stream record)

theorem run_rollBackScope {name : String} {version : Nat}
    (current : world.store.version? (.scope name) = some version) (previous : ScopeRecord) :
    (rollBackScope name version previous).run (service outages) world =
      match outages world.calls with
      | some _ => ((), world.lose (.scope name))
      | none => ((), world.commit (.scope name) (.scope previous)) := by
  have run : (rollBackScope name version previous).run (service outages) world = _ :=
    Plan.run_bind (service outages) (putScope name (some version) previous).run _ world
  rw [run, run_putScope outages current]
  cases outages world.calls <;> rfl

theorem run_rollBackStream {stream : StreamId} {version : Nat}
    (current : world.store.version? (.stream stream) = some version) (previous : StreamRecord) :
    (rollBackStream stream version previous).run (service outages) world =
      match outages world.calls with
      | some _ => ((), world.lose (.stream stream))
      | none => ((), world.commit (.stream stream) (.stream previous)) := by
  have run : (rollBackStream stream version previous).run (service outages) world = _ :=
    Plan.run_bind (service outages) (putStream stream (some version) previous).run _ world
  rw [run, run_putStream outages current]
  cases outages world.calls <;> rfl

end UnsteadyStore

namespace Outcome

variable {outages : Outages} {store : Store} {calls : Nat}

theorem of_onScope {name : String} {judge : Option ScopeRecord → Verdict}
    {rest : Option (Versioned ScopeRecord) → Action Bool}
    (continued : ∀ current, store.readScope name = .ok current →
      Outcome outages store (judge (current.map (·.value)))
        ((rest current).run.run (UnsteadyStore.service outages) ⟨store, calls + 1, []⟩)) :
    Outcome outages store (.onScope store name judge)
      ((liftM (Lookup.scopeRecord name) >>= rest).run.run (UnsteadyStore.service outages)
        ⟨store, calls, []⟩) := by
  simp only [run_sequence, run_fetch, UnsteadyStore.run_scopeRecord]
  cases failed : outages calls with
  | some text => exact .lost failed (calls + 1) [] (by decide)
  | none =>
    unfold Verdict.onScope
    cases read : store.readScope name with
    | error failure => exact .done (calls + 1)
    | ok current => exact continued current read

theorem of_onStream {stream : StreamId} {judge : Option StreamRecord → Verdict}
    {rest : Option (Versioned StreamRecord) → Action Bool}
    (continued : ∀ current, store.readStream stream = .ok current →
      Outcome outages store (judge (current.map (·.value)))
        ((rest current).run.run (UnsteadyStore.service outages) ⟨store, calls + 1, []⟩)) :
    Outcome outages store (.onStream store stream judge)
      ((liftM (Lookup.streamRecord stream) >>= rest).run.run (UnsteadyStore.service outages)
        ⟨store, calls, []⟩) := by
  simp only [run_sequence, run_fetch, UnsteadyStore.run_streamRecord]
  cases failed : outages calls with
  | some text => exact .lost failed (calls + 1) [] (by decide)
  | none =>
    unfold Verdict.onStream
    cases read : store.readStream stream with
    | error failure => exact .done (calls + 1)
    | ok current => exact continued current read

theorem of_first (first : Write) {expected : Option Nat} {verdict : Verdict}
    {rest : Nat → Action Bool} (current : store.version? first.key = expected)
    (continued : Outcome outages store verdict
      ((rest (expected.getD 0 + 1)).run.run (UnsteadyStore.service outages)
        ⟨store.write first, calls + 1, []⟩)) :
    Outcome outages store verdict
      ((liftM (Fetch.compareAndSet first.key expected first.record) >>= rest).run.run
        (UnsteadyStore.service outages) ⟨store, calls, []⟩) := by
  simp only [run_sequence, run_fetch,
    UnsteadyStore.run_compareAndSet outages ⟨store, calls, []⟩ current]
  cases failed : outages calls with
  | some text => exact .lost failed (calls + 1) [first.key] (Nat.le_refl 1)
  | none => exact continued

theorem of_second (first undo second : Write) {version : Nat} {expected : Option Nat}
    {rest : Except StoreFailure Nat → Action Bool}
    (written : (store.write first).version? undo.key = some version)
    (current : (store.write first).version? second.key = expected)
    (succeeded : ∀ number world,
      (rest (.ok number)).run.run (UnsteadyStore.service outages) world = (.ok true, world))
    (failed : ∀ text (world : UnsteadyStore), world.store.version? undo.key = some version →
      (rest (.error (.unavailable text))).run.run (UnsteadyStore.service outages) world =
        (.error (.store (.unavailable text)), match outages world.calls with
          | some _ => world.lose undo.key
          | none => world.commit undo.key undo.record)) :
    Outcome outages store (.both first undo second)
      ((liftM (Fetch.compareAndSet second.key expected second.record).run >>= rest).run.run
        (UnsteadyStore.service outages) ⟨store.write first, calls, []⟩) := by
  simp only [run_sequence, run_plan,
    UnsteadyStore.run_compareAndSet outages ⟨store.write first, calls, []⟩ current]
  cases lost : outages calls with
  | none =>
    simp only [succeeded]
    exact .done (calls + 1)
  | some text =>
    have ended := failed text (UnsteadyStore.lose ⟨store.write first, calls, []⟩ second.key) written
    simp only [ended]
    cases again : outages (calls + 1) with
    | none =>
      simp only [UnsteadyStore.lose, UnsteadyStore.next, again]
      exact .undone lost rfl (calls + 2)
    | some other =>
      simp only [UnsteadyStore.lose, UnsteadyStore.next, again]
      exact .stranded lost rfl (calls + 2)

theorem of_steady {verdict : Verdict} {ended : Except Error Bool × UnsteadyStore}
    (outcome : Outcome (fun _ => none) store verdict ended) :
    ended.1 = verdict.result ∧ ended.2.store = verdict.apply store := by
  cases outcome with
  | done calls => exact ⟨rfl, rfl⟩
  | lost failed => cases failed
  | undone failed => cases failed
  | stranded failed => cases failed

end Outcome

namespace Lifecycle

variable (outages : Outages) (store : Store)

theorem createScope_outcome (name : String) :
    Outcome outages store (.onScope store name (.createScope name))
      ((createScope name).run.attempt outages store) := by
  refine .of_onScope fun current read => ?_
  have version := Store.version?_of_readScope read
  rcases current with _ | ⟨⟨_ | _, members⟩, number⟩
  · exact .of_first (.scope name .fresh) version (.done 2)
  · exact .done 1
  · exact .of_first (.scope name .fresh) version (.done 2)

theorem deleteScope_outcome (name : String) :
    Outcome outages store (.onScope store name (.deleteScope name))
      ((deleteScope name).run.attempt outages store) := by
  refine .of_onScope fun current read => ?_
  have version := Store.version?_of_readScope read
  rcases current with _ | ⟨⟨_ | _, members⟩, number⟩
  · exact .done 1
  · by_cases inhabited : 0 < members.size
    · simp only [Option.map_some, Option.getD_some, Verdict.deleteScope, inhabited, decide_true,
        ScopeVerb.transition, if_true]
      exact .done 1
    · simp only [Option.map_some, Option.getD_some, Verdict.deleteScope, inhabited, decide_false,
        ScopeVerb.transition, Bool.false_eq_true, if_false]
      exact .of_first (.scope name .tombstone) version (.done 2)
  · exact .done 1

theorem updateStream_outcome (nameReuse : Bool) (stream : StreamId) (config : StreamConfig) :
    Outcome outages store (.onStream store stream (.ifActive stream (·.reconfigured config)))
      ((updateStream nameReuse stream config).run.attempt outages store) := by
  refine .of_onStream fun current read => ?_
  have version := Store.version?_of_readStream read
  rcases current with _ | ⟨⟨_ | _ | _, previous, epoch, generation⟩, number⟩
  · exact .done 1
  · exact .of_first (.stream stream ⟨.active, config, epoch + 1, generation⟩) version
      (.done 2)
  · exact .done 1
  · exact .done 1

theorem sealStream_outcome (nameReuse : Bool) (stream : StreamId) :
    Outcome outages store (.onStream store stream (.ifActive stream (·.movedTo .sealed)))
      ((sealStream nameReuse stream).run.attempt outages store) := by
  refine .of_onStream fun current read => ?_
  have version := Store.version?_of_readStream read
  rcases current with _ | ⟨⟨_ | _ | _, config, epoch, generation⟩, number⟩
  · exact .done 1
  · exact .of_first (.stream stream ⟨.sealed, config, epoch, generation⟩) version (.done 2)
  · exact .done 1
  · exact .done 1

theorem enroll_outcome (stream : StreamId) (config : StreamConfig) (parent : Versioned ScopeRecord)
    (current : Option (Versioned StreamRecord)) (notice : Notice) (calls : Nat)
    (scopeVersion : store.version? (.scope stream.scope) = some parent.version)
    (streamVersion : store.version? (.stream stream) = current.map (·.version)) :
    Outcome outages store
      (.both (.scope stream.scope (parent.value.enroll stream.name))
        (.scope stream.scope parent.value)
        (.stream stream (nextIncarnation (current.map (·.value)) config)))
      ((do
        let listed ← putScope stream.scope (some parent.version) (parent.value.enroll stream.name)
        let record := nextIncarnation (current.map (·.value)) config
        match ← (putStream stream (current.map (·.version)) record).run with
        | .ok _ =>
          note notice
          return true
        | .error failure =>
          rollBackScope stream.scope listed parent.value
          throw (.store failure) : Action Bool).run.run (UnsteadyStore.service outages)
        ⟨store, calls, []⟩) := by
  have listed : (store.write (.scope stream.scope (parent.value.enroll stream.name))).version?
      (.scope stream.scope) = some (parent.version + 1) := by
    simp [Store.write, Write.key, Write.record, scopeVersion]
  refine .of_first (.scope stream.scope (parent.value.enroll stream.name)) scopeVersion ?_
  refine .of_second _ (.scope stream.scope parent.value)
    (.stream stream (nextIncarnation (current.map (·.value)) config)) listed ?_ ?_ ?_
  · rw [← streamVersion]
    exact Store.version?_put_other (by simp [Write.key]) store _
  · exact fun _ _ => rfl
  · intro text world written
    simp only [run_sequence, run_plan, run_throw, Option.getD_some]
    rw [UnsteadyStore.run_rollBackScope outages written]
    cases outages world.calls <;> rfl

theorem createStream_outcome (nameReuse : Bool) (stream : StreamId) (config : StreamConfig) :
    Outcome outages store
      (.onScope store stream.scope (.createStream nameReuse store stream config))
      ((createStream nameReuse stream config).run.attempt outages store) := by
  refine .of_onScope fun parent read => ?_
  have scopeVersion := Store.version?_of_readScope read
  rcases parent with _ | ⟨⟨_ | _, members⟩, number⟩
  · exact .done 1
  · refine .of_onStream fun current found => ?_
    have streamVersion := Store.version?_of_readStream found
    have enrolled := enroll_outcome outages store stream config ⟨⟨.active, members⟩, number⟩ current
    rcases current with _ | ⟨⟨_ | _ | _, previous, epoch, generation⟩, last⟩
    · exact enrolled _ 2 scopeVersion streamVersion
    · exact .done 2
    · exact .done 2
    · cases nameReuse
      · exact .done 2
      · exact enrolled _ 2 scopeVersion streamVersion
  · exact .done 1

theorem dismiss_outcome (stream : StreamId) (current : Versioned StreamRecord)
    (parent : Option (Versioned ScopeRecord)) (notice : Notice) (calls : Nat)
    (streamVersion : store.version? (.stream stream) = some current.version)
    (scopeVersion : store.version? (.scope stream.scope) = parent.map (·.version)) :
    Outcome outages store (.dismiss stream current.value (parent.map (·.value)))
      ((do
        let version ← putStream stream (some current.version) (current.value.movedTo .deleted)
        dismissStream stream parent version current.value
        note notice
        return true : Action Bool).run.run (UnsteadyStore.service outages) ⟨store, calls, []⟩) := by
  have marked : (store.write (.stream stream (current.value.movedTo .deleted))).version?
      (.stream stream) = some (current.version + 1) := by
    simp [Store.write, Write.key, Write.record, streamVersion]
  refine .of_first (.stream stream (current.value.movedTo .deleted)) streamVersion ?_
  unfold dismissStream Verdict.dismiss
  rcases parent with _ | scope
  · exact .done (calls + 1)
  · by_cases listed : scope.value.members.contains stream.name
    · simp only [Option.map_some, Option.filter_some, listed, if_true, bind_assoc]
      refine .of_second _ (.stream stream current.value)
        (.scope stream.scope (scope.value.dismiss stream.name)) marked ?_ ?_ ?_
      · rw [← Option.map_some, ← scopeVersion]
        exact Store.version?_put_other (by simp [Write.key]) store _
      · exact fun _ _ => rfl
      · intro text world written
        simp only [run_sequence, run_plan, run_throw, Option.getD_some]
        rw [UnsteadyStore.run_rollBackStream outages written]
        cases outages world.calls <;> rfl
    · simp only [Option.map_some, Option.filter_some, listed, Bool.false_eq_true, if_false]
      exact .done (calls + 1)

theorem deleteStream_outcome (nameReuse : Bool) (stream : StreamId) :
    Outcome outages store (.onStream store stream (.deleteStream store stream))
      ((deleteStream nameReuse stream).run.attempt outages store) := by
  refine .of_onStream fun current read => ?_
  have streamVersion := Store.version?_of_readStream read
  rcases current with _ | ⟨⟨_ | _ | _, config, epoch, generation⟩, number⟩
  · exact .done 1
  · exact .done 1
  · refine .of_onScope fun parent found => ?_
    exact dismiss_outcome outages store stream _ parent _ 2 streamVersion
      (Store.version?_of_readScope found)
  · exact .done 1

end Lifecycle

namespace Operation

theorem perform_outcome (settings : Settings) (operation : Operation) (outages : Outages)
    (store : Store) :
    Outcome outages store (operation.verdictOnValid settings store)
      ((operation.perform settings).run.attempt outages store) := by
  cases operation with
  | createScope scope => exact Lifecycle.createScope_outcome outages store scope
  | deleteScope scope => exact Lifecycle.deleteScope_outcome outages store scope
  | createStream stream config =>
    exact Lifecycle.createStream_outcome outages store settings.nameReuse stream config
  | updateStream stream config =>
    exact Lifecycle.updateStream_outcome outages store settings.nameReuse stream config
  | sealStream stream => exact Lifecycle.sealStream_outcome outages store settings.nameReuse stream
  | deleteStream stream =>
    exact Lifecycle.deleteStream_outcome outages store settings.nameReuse stream

theorem plan_outcome (settings : Settings) (operation : Operation) (outages : Outages)
    (store : Store) :
    Outcome outages store (operation.verdict settings store)
      ((operation.plan settings).run.attempt outages store) := by
  unfold plan verdict
  cases checked : operation.check settings with
  | error error => exact .done 0
  | ok _ => exact perform_outcome settings operation outages store

end Operation

def Store.operate (store : Store) (settings : Settings) (operation : Operation) :
    Except Error Bool × Store :=
  (operation.plan settings).run.run service store

theorem Store.operate_eq (store : Store) (settings : Settings) (operation : Operation) :
    store.operate settings operation =
      ((operation.verdict settings store).result,
        (operation.verdict settings store).apply store) := by
  have same := Plan.run_steady (operation.plan settings).run { store }
  have carried := (operation.plan_outcome settings (fun _ => none) store).of_steady
  exact Prod.ext (same.1.symm.trans carried.1) (same.2.symm.trans carried.2)

end StreamCatalog
