import StreamCatalog.Proofs.Traffic

namespace StreamCatalog

namespace Plan

/-- A plan puts `undo` over what it wrote as this version, and ends with the failure either way. -/
def TakesBack (undo : Write) (version : Nat) (failure : StoreFailure)
    (plan : Plan (Except Error Bool)) : Prop :=
  ∃ next, plan = .compareAndSet undo.key (some version) undo.record next ∧
    ∀ reply, (next reply).answer? = some (.error (.store failure))

/-- A plan has made the first of two writes, and the second one is next. -/
def Completes (store : Store) (first undo second : Write) (plan : Plan (Except Error Bool)) :
    Prop :=
  ∃ next, plan = .compareAndSet second.key (store.version? second.key) second.record next ∧
    (∀ version, (next (.ok version)).answer? = some (.ok true)) ∧
    ∀ failure, TakesBack undo (store.writes first.key + 1) failure (next (.error failure))

/-- A plan whose reads are answered from this store does what the verdict says. Its writes expect
    the versions of that store, and may be answered by anything. -/
inductive Follows (store : Store) : Plan (Except Error Bool) → Verdict → Prop where
  | refuse {plan : Plan (Except Error Bool)} {error : Error}
      (ended : plan.answer? = some (.error error)) : Follows store plan (.refuse error)
  | idle {plan : Plan (Except Error Bool)} (ended : plan.answer? = some (.ok false)) :
    Follows store plan .idle
  | get {key : Key} {verdict : Verdict}
      {next : Except StoreFailure (Option (Versioned Record)) → Plan (Except Error Bool)}
      (rest : Follows store (next (.ok (store.get key))) verdict) :
    Follows store (.get key next) verdict
  | one {write : Write} {next : Except StoreFailure Nat → Plan (Except Error Bool)}
      (written : ∀ version, (next (.ok version)).answer? = some (.ok true))
      (failed : ∀ failure, (next (.error failure)).answer? = some (.error (.store failure))) :
    Follows store (.compareAndSet write.key (store.version? write.key) write.record next)
      (.one write)
  | both {first undo second : Write} {next : Except StoreFailure Nat → Plan (Except Error Bool)}
      (written : (next (.ok (store.writes first.key + 1))).Completes store first undo second)
      (failed : ∀ failure, (next (.error failure)).answer? = some (.error (.store failure))) :
    Follows store (.compareAndSet first.key (store.version? first.key) first.record next)
      (.both first undo second)

namespace Follows

variable {store : Store}

theorem of_onScope {name : String} {judge : Option ScopeRecord → Verdict}
    {rest : Option (Versioned ScopeRecord) → Action Bool}
    (continued : ∀ current, store.readScope name = .ok current →
      (rest current).run.Follows store (judge (current.map (·.value)))) :
    (liftM (Lookup.scopeRecord name) >>= rest).run.Follows store (.onScope store name judge) := by
  refine .get ?_
  rw [Verdict.onScope_eq, Store.value?]
  rcases found : store.get (.scope name) with _ | ⟨record | record, version⟩
  · exact continued none (by rw [Store.readScope, found])
  · exact continued (some ⟨record, version⟩) (by rw [Store.readScope, found])
  · exact .refuse rfl

theorem of_onStream {stream : StreamId} {judge : Option StreamRecord → Verdict}
    {rest : Option (Versioned StreamRecord) → Action Bool}
    (continued : ∀ current, store.readStream stream = .ok current →
      (rest current).run.Follows store (judge (current.map (·.value)))) :
    (liftM (Lookup.streamRecord stream) >>= rest).run.Follows store
      (.onStream store stream judge) := by
  refine .get ?_
  rw [Verdict.onStream_eq, Store.value?]
  rcases found : store.get (.stream stream) with _ | ⟨record | record, version⟩
  · exact continued none (by rw [Store.readStream, found])
  · exact .refuse rfl
  · exact continued (some ⟨record, version⟩) (by rw [Store.readStream, found])

theorem of_one (write : Write) {expected : Option Nat}
    {next : Except StoreFailure Nat → Plan (Except Error Bool)}
    (current : store.version? write.key = expected)
    (written : ∀ version, (next (.ok version)).answer? = some (.ok true))
    (failed : ∀ failure, (next (.error failure)).answer? = some (.error (.store failure))) :
    (compareAndSet write.key expected write.record next).Follows store (.one write) :=
  current ▸ .one written failed

theorem of_both (first undo second : Write) {expected : Option Nat}
    {next : Except StoreFailure Nat → Plan (Except Error Bool)}
    (current : store.version? first.key = expected)
    (written : (next (.ok (store.writes first.key + 1))).Completes store first undo second)
    (failed : ∀ failure, (next (.error failure)).answer? = some (.error (.store failure))) :
    (compareAndSet first.key expected first.record next).Follows store (.both first undo second) :=
  current ▸ .both written failed

end Follows

end Plan

namespace Lifecycle

variable (store : Store)

theorem createScope_follows (name : String) :
    (createScope name).run.Follows store (.onScope store name (.createScope name)) := by
  refine .of_onScope fun current read => ?_
  have version := Store.version?_of_readScope read
  rcases current with _ | ⟨⟨_ | _, members⟩, number⟩
  · exact .of_one (.scope name .fresh) version (fun _ => rfl) fun _ => rfl
  · exact .idle rfl
  · exact .of_one (.scope name .fresh) version (fun _ => rfl) fun _ => rfl

theorem deleteScope_follows (name : String) :
    (deleteScope name).run.Follows store (.onScope store name (.deleteScope name)) := by
  refine .of_onScope fun current read => ?_
  have version := Store.version?_of_readScope read
  rcases current with _ | ⟨⟨_ | _, members⟩, number⟩
  · exact .idle rfl
  · by_cases inhabited : 0 < members.size
    · simp only [Option.map_some, Option.getD_some, Verdict.deleteScope, inhabited, decide_true,
        ScopeVerb.transition, if_true]
      exact .refuse rfl
    · simp only [Option.map_some, Option.getD_some, Verdict.deleteScope, inhabited, decide_false,
        ScopeVerb.transition, Bool.false_eq_true, if_false]
      exact .of_one (.scope name .tombstone) version (fun _ => rfl) fun _ => rfl
  · exact .idle rfl

theorem updateStream_follows (nameReuse : Bool) (stream : StreamId) (config : StreamConfig) :
    (updateStream nameReuse stream config).run.Follows store
      (.onStream store stream (.ifActive stream (·.reconfigured config))) := by
  refine .of_onStream fun current read => ?_
  have version := Store.version?_of_readStream read
  rcases current with _ | ⟨⟨_ | _ | _, previous, epoch, generation⟩, number⟩
  · exact .refuse rfl
  · exact .of_one (.stream stream ⟨.active, config, epoch + 1, generation⟩) version
      (fun _ => rfl) fun _ => rfl
  · exact .refuse rfl
  · exact .refuse rfl

theorem sealStream_follows (nameReuse : Bool) (stream : StreamId) :
    (sealStream nameReuse stream).run.Follows store
      (.onStream store stream (.ifActive stream (·.movedTo .sealed))) := by
  refine .of_onStream fun current read => ?_
  have version := Store.version?_of_readStream read
  rcases current with _ | ⟨⟨_ | _ | _, config, epoch, generation⟩, number⟩
  · exact .refuse rfl
  · exact .of_one (.stream stream ⟨.sealed, config, epoch, generation⟩) version
      (fun _ => rfl) fun _ => rfl
  · exact .refuse rfl
  · exact .refuse rfl

theorem enroll_follows (stream : StreamId) (config : StreamConfig) (parent : Versioned ScopeRecord)
    (current : Option (Versioned StreamRecord)) (notice : Notice)
    (scopeVersion : store.version? (.scope stream.scope) = some parent.version)
    (streamVersion : store.version? (.stream stream) = current.map (·.version)) :
    (do
      let listed ← putScope stream.scope (some parent.version) (parent.value.enroll stream.name)
      let record := nextIncarnation (current.map (·.value)) config
      match ← (putStream stream (current.map (·.version)) record).run with
      | .ok _ =>
        note notice
        return true
      | .error failure =>
        rollBackScope stream.scope listed parent.value
        throw (.store failure) : Action Bool).run.Follows store
      (.both (.scope stream.scope (parent.value.enroll stream.name))
        (.scope stream.scope parent.value)
        (.stream stream (nextIncarnation (current.map (·.value)) config))) := by
  rw [← streamVersion]
  refine .of_both (.scope stream.scope (parent.value.enroll stream.name))
    (.scope stream.scope parent.value)
    (.stream stream (nextIncarnation (current.map (·.value)) config)) scopeVersion ?_ ?_
  · refine ⟨_, rfl, fun _ => rfl, fun failure => ⟨_, rfl, fun reply => ?_⟩⟩
    cases reply <;> rfl
  · exact fun _ => rfl

theorem createStream_follows (nameReuse : Bool) (stream : StreamId) (config : StreamConfig) :
    (createStream nameReuse stream config).run.Follows store
      (.onScope store stream.scope (.createStream nameReuse store stream config)) := by
  refine .of_onScope fun parent read => ?_
  have scopeVersion := Store.version?_of_readScope read
  rcases parent with _ | ⟨⟨_ | _, members⟩, number⟩
  · exact .refuse rfl
  · refine .of_onStream fun current found => ?_
    have streamVersion := Store.version?_of_readStream found
    have enrolled := enroll_follows store stream config ⟨⟨.active, members⟩, number⟩ current
    rcases current with _ | ⟨⟨_ | _ | _, previous, epoch, generation⟩, last⟩
    · exact enrolled _ scopeVersion streamVersion
    · exact .idle rfl
    · exact .idle rfl
    · cases nameReuse
      · exact .idle rfl
      · exact enrolled _ scopeVersion streamVersion
  · exact .refuse rfl

theorem dismiss_follows (stream : StreamId) (current : Versioned StreamRecord)
    (parent : Option (Versioned ScopeRecord)) (notice : Notice)
    (streamVersion : store.version? (.stream stream) = some current.version)
    (scopeVersion : store.version? (.scope stream.scope) = parent.map (·.version)) :
    (do
      let version ← putStream stream (some current.version) (current.value.movedTo .deleted)
      dismissStream stream parent version current.value
      note notice
      return true : Action Bool).run.Follows store
      (.dismiss stream current.value (parent.map (·.value))) := by
  unfold dismissStream Verdict.dismiss
  rcases parent with _ | scope
  · exact .of_one (.stream stream (current.value.movedTo .deleted)) streamVersion
      (fun _ => rfl) fun _ => rfl
  · by_cases listed : scope.value.members.contains stream.name
    · simp only [Option.map_some, Option.filter_some, listed, if_true, LawfulMonad.bind_assoc]
        at scopeVersion ⊢
      rw [← scopeVersion]
      refine .of_both (.stream stream (current.value.movedTo .deleted))
        (.stream stream current.value) (.scope stream.scope (scope.value.dismiss stream.name))
        streamVersion ?_ ?_
      · refine ⟨_, rfl, fun _ => rfl, fun failure => ⟨_, rfl, fun reply => ?_⟩⟩
        cases reply <;> rfl
      · exact fun _ => rfl
    · simp only [Option.map_some, Option.filter_some, listed, Bool.false_eq_true, if_false]
      exact .of_one (.stream stream (current.value.movedTo .deleted)) streamVersion
        (fun _ => rfl) fun _ => rfl

theorem deleteStream_follows (nameReuse : Bool) (stream : StreamId) :
    (deleteStream nameReuse stream).run.Follows store
      (.onStream store stream (.deleteStream store stream)) := by
  refine .of_onStream fun current read => ?_
  have streamVersion := Store.version?_of_readStream read
  rcases current with _ | ⟨⟨_ | _ | _, config, epoch, generation⟩, number⟩
  · exact .idle rfl
  · exact .refuse rfl
  · refine .of_onScope fun parent found => ?_
    exact dismiss_follows store stream _ parent _ streamVersion (Store.version?_of_readScope found)
  · exact .idle rfl

end Lifecycle

theorem Operation.plan_follows (settings : Settings) (operation : Operation) (store : Store) :
    (operation.plan settings).run.Follows store (operation.verdict settings store) := by
  unfold plan verdict
  cases operation.check settings with
  | error error => exact .refuse rfl
  | ok valid =>
    cases operation with
    | createScope name => exact Lifecycle.createScope_follows store name
    | deleteScope name => exact Lifecycle.deleteScope_follows store name
    | createStream stream config => exact Lifecycle.createStream_follows store _ stream config
    | updateStream stream config => exact Lifecycle.updateStream_follows store _ stream config
    | sealStream stream => exact Lifecycle.sealStream_follows store _ stream
    | deleteStream stream => exact Lifecycle.deleteStream_follows store _ stream

end StreamCatalog
