import StreamCatalog.Proofs.Contents
import StreamCatalog.Proofs.Execution
import StreamCatalog.Query

namespace StreamCatalog

namespace Store

variable (store : Store)

def activeScopes : List String :=
  store.scopeNames.filter fun name => (store.scope? name).any (·.state = .active)

def answer : Query → Except Error Answer
  | .scopeExists name => .ok (.flag ((store.scope? name).any (·.state = .active)))
  | .scopeIsEmpty name => .ok (.flag ((store.scope? name).all (·.members.isEmpty)))
  | .scopes => .ok (.names store.activeScopes.mergeSort)
  | .streams name =>
    match store.scope? name with
    | some ⟨.active, members⟩ => .ok (.names members.toList)
    | none | some ⟨.deleted, _⟩ => .error (.scopeNotFound name)
  | .streamExists stream => .ok (.flag ((store.stream? stream).any (·.state ≠ .deleted)))
  | .streamInfo stream => .ok (.info ((store.stream? stream).map (⟨stream, ·⟩)))
  | .streamIsActive stream => .ok (.flag ((store.stream? stream).any (·.state = .active)))

theorem nodup_scopeNames : store.scopeNames.Nodup := by
  rw [scopeNames, List.Nodup, List.pairwise_filterMap]
  refine store.records.distinct_keys.imp ?_
  intro first second different name here other there same
  rcases first with first | first
  · rcases second with second | second
    · cases here
      cases there
      cases same
      exact different Std.ReflOrd.compare_self
    · cases there
  · cases here

theorem mem_scopeNames (name : String) :
    name ∈ store.scopeNames ↔ ∃ found, store.get (.scope name) = some found := by
  have listed : name ∈ store.scopeNames ↔ Key.scope name ∈ store.records := by
    simp only [scopeNames, List.mem_filterMap, Std.ExtTreeMap.mem_keys]
    constructor
    · rintro ⟨scope | stream, present, same⟩
      · cases same
        exact present
      · cases same
    · exact fun present => ⟨.scope name, present, rfl⟩
  rw [listed, get, Std.ExtTreeMap.mem_iff_isSome_getElem?, Option.isSome_iff_exists]

theorem mem_activeScopes (name : String) :
    name ∈ store.activeScopes ↔ (store.scope? name).any (·.state = .active) = true := by
  rw [activeScopes, List.mem_filter]
  refine ⟨fun both => both.2, fun active => ⟨?_, active⟩⟩
  obtain ⟨record, present, state⟩ := (Option.any_eq_true ..).mp active
  obtain ⟨found, here, same⟩ := Option.map_eq_some_iff.mp (value?_of_scope? present)
  exact (store.mem_scopeNames name).mpr ⟨found, here⟩

theorem run_scopeRecord (name : String) :
    (Lookup.scopeRecord name).run.run service store = (store.readScope name, store) := by
  have call : (Fetch.get (.scope name)).run.run service store =
      (.ok (store.get (.scope name)), store) := rfl
  rw [Lookup.scopeRecord, run_sequence, call, readScope]
  rcases store.get (.scope name) with _ | ⟨_ | _, version⟩ <;> rfl

theorem run_streamRecord (stream : StreamId) :
    (Lookup.streamRecord stream).run.run service store = (store.readStream stream, store) := by
  have call : (Fetch.get (.stream stream)).run.run service store =
      (.ok (store.get (.stream stream)), store) := rfl
  rw [Lookup.streamRecord, run_sequence, call, readStream]
  rcases store.get (.stream stream) with _ | ⟨_ | _, version⟩ <;> rfl

namespace Filed

variable {store} (filed : store.Filed)

include filed

theorem run_scopeExists (name : String) :
    (Lookup.scopeExists name).run.run service store =
      (.ok ((store.scope? name).any (·.state = .active)), store) := by
  obtain ⟨current, read, found⟩ := filed.readScope name
  rw [Lookup.scopeExists, run_sequence, run_scopeRecord, read, found]
  cases current <;> rfl

theorem run_scopeIsEmpty (name : String) :
    (Lookup.scopeIsEmpty name).run.run service store =
      (.ok ((store.scope? name).all (·.members.isEmpty)), store) := by
  obtain ⟨current, read, found⟩ := filed.readScope name
  rw [Lookup.scopeIsEmpty, run_sequence, run_scopeRecord, read, found]
  cases current <;> rfl

theorem run_keepActive (names : List String) :
    (Lookup.keepActive names).run.run service store =
      (.ok (names.filter fun name => (store.scope? name).any (·.state = .active)), store) := by
  induction names with
  | nil => rfl
  | cons name rest ih =>
    rw [Lookup.keepActive, run_sequence, filed.run_scopeExists]
    simp only
    rw [run_sequence, ih]
    simp only [List.filter_cons]
    rfl

theorem run_scopes :
    Lookup.scopes.run.run service store = (.ok store.activeScopes.mergeSort, store) := by
  have call : Fetch.scopeNames.run.run service store = (.ok store.scopeNames, store) := rfl
  rw [Lookup.scopes, run_sequence, call]
  simp only
  rw [run_sequence, filed.run_keepActive]
  rfl

theorem run_listStreams (name : String) :
    (Query.listStreams name).run.run service store =
      match store.scope? name with
      | some ⟨.active, members⟩ => (.ok members.toList, store)
      | none | some ⟨.deleted, _⟩ => (.error (.scopeNotFound name), store) := by
  obtain ⟨current, read, found⟩ := filed.readScope name
  rw [Query.listStreams, run_sequence, run_fetch, run_scopeRecord, read, found]
  rcases current with _ | ⟨⟨_ | _, members⟩, version⟩ <;> rfl

theorem run_streamExists (stream : StreamId) :
    (Lookup.streamExists stream).run.run service store =
      (.ok ((store.stream? stream).any (·.state ≠ .deleted)), store) := by
  obtain ⟨current, read, found⟩ := filed.readStream stream
  rw [Lookup.streamExists, run_sequence, run_streamRecord, read, found]
  cases current <;> rfl

theorem run_streamInfo (stream : StreamId) :
    (Lookup.streamInfo stream).run.run service store =
      (.ok ((store.stream? stream).map (⟨stream, ·⟩)), store) := by
  obtain ⟨current, read, found⟩ := filed.readStream stream
  rw [Lookup.streamInfo, run_sequence, run_streamRecord, read, found]
  cases current <;> rfl

theorem run_streamIsActive (stream : StreamId) :
    (Lookup.streamIsActive stream).run.run service store =
      (.ok ((store.stream? stream).any (·.state = .active)), store) := by
  rw [Lookup.streamIsActive, run_sequence, filed.run_streamInfo]
  cases store.stream? stream <;> rfl

theorem run_query (query : Query) :
    query.plan.run.run service store = (store.answer query, store) := by
  cases query with
  | scopeExists name =>
    rw [Query.plan, run_sequence, run_fetch, filed.run_scopeExists]
    rfl
  | scopeIsEmpty name =>
    rw [Query.plan, run_sequence, run_fetch, filed.run_scopeIsEmpty]
    rfl
  | scopes =>
    rw [Query.plan, run_sequence, run_fetch, filed.run_scopes]
    rfl
  | streams name =>
    rw [Query.plan, run_sequence, filed.run_listStreams, answer]
    rcases store.scope? name with _ | ⟨_ | _, members⟩ <;> rfl
  | streamExists stream =>
    rw [Query.plan, run_sequence, run_fetch, filed.run_streamExists]
    rfl
  | streamInfo stream =>
    rw [Query.plan, run_sequence, run_fetch, filed.run_streamInfo]
    rfl
  | streamIsActive stream =>
    rw [Query.plan, run_sequence, run_fetch, filed.run_streamIsActive]
    rfl

end Filed

end Store

end StreamCatalog
