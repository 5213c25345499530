import StreamCatalog.Catalog
import StreamCatalog.Proofs.Answers
import StreamCatalog.Proofs.MemberIndex
import StreamCatalog.Proofs.Reference

namespace StreamCatalog

/-- The reference knows the same states of scopes and the same records of streams. -/
structure Mirrors (store : Store) (reference : Reference) : Prop where
  scopes : ∀ name, reference.scopes[name]? = (store.scope? name).map (·.state)
  streams : ∀ stream, reference.streams[stream]? = store.stream? stream

namespace Mirrors

variable {store : Store} {reference : Reference}

theorem empty : Mirrors .empty .empty := by
  constructor
  · intro name
    simp [Reference.empty, Store.scope?]
  · intro stream
    simp [Reference.empty, Store.stream?]

variable (mirrors : Mirrors store reference)

include mirrors

theorem writeScope (name : String) (record : ScopeRecord) :
    Mirrors (store.write (.scope name record)) (reference.setScope name record.state) := by
  constructor
  · intro other
    rw [Reference.setScope, Std.ExtTreeMap.getElem?_insert, Store.scope?_write_scope,
      mirrors.scopes other]
    by_cases same : name = other <;> simp [same]
  · intro stream
    rw [Reference.setScope, Store.stream?_write_scope, mirrors.streams stream]

theorem writeStream (stream : StreamId) (record : StreamRecord) :
    Mirrors (store.write (.stream stream record)) (reference.setStream stream record) := by
  constructor
  · intro name
    rw [Reference.setStream, Store.scope?_write_stream, mirrors.scopes name]
  · intro other
    rw [Reference.setStream, Std.ExtTreeMap.getElem?_insert, Store.stream?_write_stream,
      mirrors.streams other]
    by_cases same : stream = other <;> simp [same]

theorem relist {name : String} {parent : ScopeRecord} (found : store.scope? name = some parent)
    (record : ScopeRecord) (same : record.state = parent.state) :
    Mirrors (store.write (.scope name record)) reference := by
  constructor
  · intro other
    rw [Store.scope?_write_scope, mirrors.scopes other]
    by_cases here : name = other
    · subst here
      simp [found, same]
    · simp [here]
  · intro stream
    rw [Store.stream?_write_scope, mirrors.streams stream]

theorem mem_liveStreams (scope name : String) :
    name ∈ reference.liveStreams scope ↔
      ∃ record, store.stream? ⟨scope, name⟩ = some record ∧ record.Live := by
  simp only [Reference.liveStreams, List.mem_map, List.mem_filter, Prod.exists,
    Std.ExtTreeMap.mem_toList_iff_getElem?_eq_some, mirrors.streams, decide_eq_true_eq]
  constructor
  · rintro ⟨stream, record, ⟨found, rfl, live⟩, rfl⟩
    exact ⟨record, found, live⟩
  · rintro ⟨record, found, live⟩
    exact ⟨⟨scope, name⟩, record, ⟨found, rfl, live⟩, rfl⟩

theorem mem_activeScopes (name : String) :
    name ∈ reference.activeScopes ↔
      (store.scope? name).any (·.state = .active) = true := by
  simp only [Reference.activeScopes, List.mem_map, List.mem_filter, Prod.exists,
    Std.ExtTreeMap.mem_toList_iff_getElem?_eq_some, mirrors.scopes, decide_eq_true_eq]
  constructor
  · rintro ⟨other, state, ⟨found, rfl⟩, rfl⟩
    obtain ⟨record, present, active⟩ := Option.map_eq_some_iff.mp found
    simp [present, active]
  · intro active
    obtain ⟨record, present, state⟩ := (Option.any_eq_true ..).mp active
    exact ⟨name, .active, ⟨by simpa [present] using state, rfl⟩, rfl⟩

end Mirrors

namespace Reference

theorem nodup_liveStreams (reference : Reference) (scope : String) :
    (reference.liveStreams scope).Nodup := by
  rw [liveStreams, List.Nodup, List.pairwise_map, List.pairwise_filter]
  refine reference.streams.distinct_keys_toList.imp ?_
  intro first second different here there same
  simp only [decide_eq_true_eq] at here there
  obtain ⟨⟨scope, name⟩, record⟩ := first
  obtain ⟨⟨other, second⟩, later⟩ := second
  obtain ⟨rfl, -⟩ := here
  obtain ⟨rfl, -⟩ := there
  cases same
  exact different Std.ReflOrd.compare_self

theorem nodup_activeScopes (reference : Reference) : reference.activeScopes.Nodup := by
  rw [activeScopes, List.Nodup, List.pairwise_map, List.pairwise_filter]
  refine reference.scopes.distinct_keys_toList.imp ?_
  intro first second different here there same
  exact different (by rw [same]; exact Std.ReflOrd.compare_self)

end Reference

namespace Mirrors

variable {store : Store} {reference : Reference}

/-- The list of members tells what the reference finds by looking. -/
theorem liveStreams_perm (mirrors : Mirrors store reference) (indexed : store.Indexed)
    {scope : String} {parent : ScopeRecord} (found : store.scope? scope = some parent) :
    (reference.liveStreams scope).Perm parent.members.toList := by
  refine (List.perm_ext_iff_of_nodup (reference.nodup_liveStreams scope) ?_).mpr ?_
  · exact parent.nodup_members
  · intro name
    rw [mirrors.mem_liveStreams, Std.ExtTreeSet.mem_toList, indexed.mem_members found]

theorem length_liveStreams (mirrors : Mirrors store reference) (indexed : store.Indexed)
    {scope : String} {parent : ScopeRecord} (found : store.scope? scope = some parent) :
    (reference.liveStreams scope).length = parent.members.size := by
  rw [(mirrors.liveStreams_perm indexed found).length_eq, Std.ExtTreeSet.length_toList]

theorem liveStreams_of_closed (mirrors : Mirrors store reference) (indexed : store.Indexed)
    {scope : String}
    (closed : ∀ parent, store.scope? scope = some parent → parent.state ≠ .active) :
    reference.liveStreams scope = [] := by
  refine List.eq_nil_iff_forall_not_mem.mpr ?_
  intro name member
  obtain ⟨record, found, live⟩ := (mirrors.mem_liveStreams scope name).mp member
  obtain ⟨parent, listing, active, -⟩ := indexed.listed ⟨scope, name⟩ record found live
  exact closed parent listing active

theorem activeScopes_perm (mirrors : Mirrors store reference) :
    reference.activeScopes.Perm store.activeScopes := by
  refine (List.perm_ext_iff_of_nodup reference.nodup_activeScopes ?_).mpr ?_
  · exact store.nodup_scopeNames.filter _
  · intro name
    rw [mirrors.mem_activeScopes, store.mem_activeScopes]

theorem answer (mirrors : Mirrors store reference) (indexed : store.Indexed) (query : Query) :
    store.answer query = reference.answer query := by
  cases query with
  | scopeExists scope =>
    simp only [Store.answer, Reference.answer, mirrors.scopes]
    rcases store.scope? scope with _ | ⟨_ | _, members⟩ <;> rfl
  | scopeIsEmpty scope =>
    simp only [Store.answer, Reference.answer]
    cases found : store.scope? scope with
    | none => rw [mirrors.liveStreams_of_closed indexed (by simp [found])]; rfl
    | some parent =>
      have same := (mirrors.liveStreams_perm indexed found).isEmpty_eq
      rw [same, Std.ExtTreeSet.isEmpty_toList]
      rfl
  | scopes =>
    rw [Store.answer, Reference.answer,
      mergeSort_byteOrder_of_perm (mirrors.activeScopes_perm)]
  | streams scope =>
    simp only [Store.answer, Reference.answer, mirrors.scopes]
    rcases found : store.scope? scope with _ | ⟨_ | _, members⟩
    · rfl
    · rw [mergeSort_byteOrder_of_perm (mirrors.liveStreams_perm indexed found), mergeSort_toList]
      rfl
    · rfl
  | streamExists stream =>
    simp only [Store.answer, Reference.answer, mirrors.streams]
    rcases store.stream? stream with _ | ⟨_ | _ | _, config, epoch, generation⟩ <;> rfl
  | streamInfo stream => simp only [Store.answer, Reference.answer, mirrors.streams]
  | streamIsActive stream => simp only [Store.answer, Reference.answer, mirrors.streams]

end Mirrors

structure Agrees (store : Store) (verdict : Verdict) (done : Except Error Bool × Reference) :
    Prop where
  result : verdict.result = done.1
  mirrors : Mirrors (verdict.apply store) done.2

namespace Agrees

variable {store : Store} {reference : Reference}

section

variable (mirrors : Mirrors store reference)

include mirrors

theorem createScope (name : String) :
    Agrees store (.createScope name (store.scope? name)) (reference.createScope name) := by
  rw [Reference.createScope, mirrors.scopes]
  rcases store.scope? name with _ | ⟨_ | _, members⟩
  · exact ⟨rfl, mirrors.writeScope name .fresh⟩
  · exact ⟨rfl, mirrors⟩
  · exact ⟨rfl, mirrors.writeScope name .fresh⟩

theorem deleteScope (indexed : store.Indexed) (name : String) :
    Agrees store (.deleteScope name (store.scope? name)) (reference.deleteScope name) := by
  rw [Reference.deleteScope, mirrors.scopes]
  rcases found : store.scope? name with _ | ⟨_ | _, members⟩
  · exact ⟨rfl, mirrors⟩
  · have length : (reference.liveStreams name).length = members.size :=
      mirrors.length_liveStreams indexed found
    simp only [Verdict.deleteScope]
    -- The catalogue looks at the size of the list, the reference at the streams themselves.
    cases live : reference.liveStreams name with
    | nil =>
      rw [live, List.length_nil] at length
      rw [if_neg (by omega)]
      exact ⟨rfl, mirrors.writeScope name .tombstone⟩
    | cons first rest =>
      rw [live] at length
      have some : 0 < members.size := by
        rw [← length]
        exact Nat.succ_pos _
      rw [if_pos some, ← length]
      exact ⟨rfl, mirrors⟩
  · exact ⟨rfl, mirrors⟩

theorem createStream (indexed : store.Indexed) (nameReuse : Bool) (stream : StreamId)
    (config : StreamConfig) :
    Agrees store (.createStream nameReuse store stream config (store.scope? stream.scope))
      (reference.createStream nameReuse stream config) := by
  rw [Reference.createStream, mirrors.scopes, mirrors.streams]
  rcases listing : store.scope? stream.scope with _ | ⟨_ | _, members⟩
  · exact ⟨rfl, mirrors⟩
  · have relisted := mirrors.relist listing (ScopeRecord.enroll ⟨.active, members⟩ stream.name) rfl
    simp only [Verdict.createStream, Verdict.onStream_filed indexed.filed, Verdict.enroll]
    rcases store.stream? stream with _ | ⟨_ | _ | _, previous, epoch, generation⟩
    · exact ⟨rfl, relisted.writeStream stream _⟩
    · exact ⟨rfl, mirrors⟩
    · exact ⟨rfl, mirrors⟩
    · cases nameReuse with
      | true => exact ⟨rfl, relisted.writeStream stream _⟩
      | false => exact ⟨rfl, mirrors⟩
  · exact ⟨rfl, mirrors⟩

theorem updateStream (stream : StreamId) (config : StreamConfig) :
    Agrees store (.ifActive stream (·.reconfigured config) (store.stream? stream))
      (reference.updateStream stream config) := by
  rw [Reference.updateStream, mirrors.streams]
  rcases store.stream? stream with _ | ⟨_ | _ | _, previous, epoch, generation⟩
  · exact ⟨rfl, mirrors⟩
  · exact ⟨rfl, mirrors.writeStream stream _⟩
  · exact ⟨rfl, mirrors⟩
  · exact ⟨rfl, mirrors⟩

theorem sealStream (stream : StreamId) :
    Agrees store (.ifActive stream (·.movedTo .sealed) (store.stream? stream))
      (reference.sealStream stream) := by
  rw [Reference.sealStream, mirrors.streams]
  rcases store.stream? stream with _ | ⟨_ | _ | _, previous, epoch, generation⟩
  · exact ⟨rfl, mirrors⟩
  · exact ⟨rfl, mirrors.writeStream stream _⟩
  · exact ⟨rfl, mirrors⟩
  · exact ⟨rfl, mirrors⟩

theorem dismiss (stream : StreamId) (record : StreamRecord) :
    Agrees store (.dismiss stream record (store.scope? stream.scope))
      (.ok true, reference.setStream stream (record.movedTo .deleted)) := by
  have deleted := mirrors.writeStream stream (record.movedTo .deleted)
  rcases Verdict.dismiss_cases stream record (store.scope? stream.scope) with
    ⟨parent, listing, -, same⟩ | ⟨-, same⟩
  · have kept : (store.write (.stream stream (record.movedTo .deleted))).scope? stream.scope =
        some parent := by rw [Store.scope?_write_stream, listing]
    rw [same]
    exact ⟨rfl, deleted.relist kept (parent.dismiss stream.name) rfl⟩
  · rw [same]
    exact ⟨rfl, deleted⟩

theorem deleteStream (indexed : store.Indexed) (stream : StreamId) :
    Agrees store (.deleteStream store stream (store.stream? stream))
      (reference.deleteStream stream) := by
  rw [Reference.deleteStream, mirrors.streams]
  rcases store.stream? stream with _ | ⟨_ | _ | _, config, epoch, generation⟩
  · exact ⟨rfl, mirrors⟩
  · exact ⟨rfl, mirrors⟩
  · simp only [Verdict.deleteStream, Verdict.onScope_filed indexed.filed]
    exact dismiss mirrors stream _
  · exact ⟨rfl, mirrors⟩

theorem carryOut (indexed : store.Indexed) (settings : Settings) (operation : Operation) :
    Agrees store (operation.verdictOnValid settings store)
      (reference.carryOut settings operation) := by
  have onScope := Verdict.onScope_filed indexed.filed
  have onStream := Verdict.onStream_filed indexed.filed
  cases operation with
  | createScope name =>
    rw [Operation.verdictOnValid, onScope]
    exact createScope mirrors name
  | deleteScope name =>
    rw [Operation.verdictOnValid, onScope]
    exact deleteScope mirrors indexed name
  | createStream stream config =>
    rw [Operation.verdictOnValid, onScope]
    exact createStream mirrors indexed settings.nameReuse stream config
  | updateStream stream config =>
    rw [Operation.verdictOnValid, onStream]
    exact updateStream mirrors stream config
  | sealStream stream =>
    rw [Operation.verdictOnValid, onStream]
    exact sealStream mirrors stream
  | deleteStream stream =>
    rw [Operation.verdictOnValid, onStream]
    exact deleteStream mirrors indexed stream

theorem operate (indexed : store.Indexed) (settings : Settings) (operation : Operation) :
    Agrees store (operation.verdict settings store) (reference.operate settings operation) := by
  rw [Operation.verdict, operation.check_eq settings, Reference.operate]
  cases operation.fault? settings with
  | some error => exact ⟨rfl, mirrors⟩
  | none => exact carryOut mirrors indexed settings operation

end

end Agrees

namespace Catalog

variable {catalog : Catalog} {reference : Reference}

theorem perform_lifecycle (hash : String → UInt64) (catalog : Catalog) (settings : Settings)
    (operation : Operation) :
    catalog.perform hash (.lifecycle settings operation) =
      (.lifecycle (operation.verdict settings catalog.store).result,
        ⟨(operation.verdict settings catalog.store).apply catalog.store, catalog.path⟩) := by
  have ran : (catalog.path.perform hash (.lifecycle settings operation)).run Store.service
      catalog.store =
      ((.lifecycle (operation.verdict settings catalog.store).result, catalog.path),
        (operation.verdict settings catalog.store).apply catalog.store) := by
    refine (Plan.run_bind ..).trans ?_
    rw [← Store.operate, Store.operate_eq]
    rfl
  rw [perform, ran]

theorem perform_query (hash : String → UInt64) (filed : catalog.store.Filed) (query : Query) :
    catalog.perform hash (.query query) = (.query (catalog.store.answer query), catalog) := by
  have ran : (catalog.path.perform hash (.query query)).run Store.service catalog.store =
      ((.query (catalog.store.answer query), catalog.path), catalog.store) := by
    refine (Plan.run_bind ..).trans ?_
    rw [filed.run_query]
    rfl
  rw [perform, ran]

theorem perform_request (hash : String → UInt64) (indexed : catalog.store.Indexed)
    (mirrors : Mirrors catalog.store reference) (request : Request) :
    (catalog.perform hash request.call).1 = (reference.perform request).1 ∧
      (catalog.perform hash request.call).2.store.Indexed ∧
      Mirrors (catalog.perform hash request.call).2.store (reference.perform request).2 := by
  cases request with
  | lifecycle settings operation =>
    have agrees := Agrees.operate mirrors indexed settings operation
    have justified := Operation.verdict_justified settings catalog.store operation
    rw [Request.call, perform_lifecycle]
    exact ⟨congrArg Reply.lifecycle agrees.result, indexed.apply justified, agrees.mirrors⟩
  | query asked =>
    rw [Request.call, perform_query hash indexed.filed, mirrors.answer indexed]
    exact ⟨rfl, indexed, mirrors⟩

theorem performAll_requests (hash : String → UInt64) (indexed : catalog.store.Indexed)
    (mirrors : Mirrors catalog.store reference) (requests : List Request) :
    (performAll hash (requests.map Request.call) catalog).1 =
      Reference.performAll requests reference := by
  induction requests generalizing catalog reference with
  | nil => rfl
  | cons request rest ih =>
    obtain ⟨reply, indexed, mirrors⟩ := perform_request hash indexed mirrors request
    rw [List.map_cons, performAll, Reference.performAll, reply, ih indexed mirrors]

/-- Whatever controllers are asked, one call after another on an empty store that never fails, they
    answer as the reference does, which has no lists of members. -/
theorem replies_refine_reference (hash : String → UInt64) (requests : List Request) :
    (performAll hash (requests.map Request.call) .empty).1 =
      Reference.performAll requests .empty :=
  performAll_requests hash .empty .empty requests

example :
    Reference.performAll [.lifecycle {} (.createScope "s"),
      .lifecycle {} (.createStream ⟨"s", "b"⟩ {}), .lifecycle {} (.createStream ⟨"s", "a"⟩ {}),
      .lifecycle {} (.deleteScope "s"), .query (.streams "s")] .empty =
    [.lifecycle (.ok true), .lifecycle (.ok true), .lifecycle (.ok true),
      .lifecycle (.error (.scopeNotEmpty "s" 2)), .query (.ok (.names ["a", "b"]))] := by cbv

end Catalog

end StreamCatalog
