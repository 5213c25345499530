import StreamCatalog.Proofs.Answers
import StreamCatalog.Proofs.Footprint
import StreamCatalog.Proofs.WellFormed

namespace StreamCatalog

namespace Lifecycle

def removeStream (settings : Settings) (stream : StreamId) : Action (List Bool) := do
  if (← (Query.streamIsActive stream).plan) = .flag true then
    let closed ← (Operation.sealStream stream).plan settings
    let deleted ← (Operation.deleteStream stream).plan settings
    return [closed, deleted]
  else
    let deleted ← (Operation.deleteStream stream).plan settings
    return [deleted]

def removeStreams (settings : Settings) (scope : String) : List String → Action (List Bool)
  | [] => return []
  | name :: rest => do
    let first ← removeStream settings ⟨scope, name⟩
    let others ← removeStreams settings scope rest
    return first ++ others

end Lifecycle

namespace Operation

variable {settings : Settings}

theorem check_of_fits {operation : Operation}
    (placed : Fits settings.maxNameLength operation.scope)
    (named : ∀ stream, operation.stream? = some stream → Fits settings.maxNameLength stream.name)
    (configured : ∀ config, operation.config? = some config → config.check = .ok ()) :
    operation.check settings = .ok () := by
  simp only [← Settings.checkName_iff_fits, ← Settings.nameFault?_eq_none] at placed named
  simp only [← StreamConfig.fault?_eq_none] at configured
  apply fault?_eq_none.mp
  cases operation <;> simp_all [fault?, scope, stream?, config?]

end Operation

namespace Store

def ask (store : Store) (query : Query) : Except Error Answer × Store :=
  query.plan.run.run service store

def operateAll (store : Store) (work : List (Settings × Operation)) : Store :=
  work.foldl (fun store step => (store.operate step.1 step.2).2) store

theorem Filed.ask {store : Store} (filed : store.Filed) (query : Query) :
    store.ask query = (store.answer query, store) := filed.run_query query

/-- The lists of members can be relied on, and names are no longer than this. -/
structure InOrder (limit : Nat) (store : Store) : Prop where
  indexed : store.Indexed
  formed : store.WellFormed limit

/-- What the removal of a stream leaves. -/
structure Removed (limit : Nat) (stream : StreamId) (parent : ScopeRecord) (store later : Store) :
    Prop where
  ordered : later.InOrder limit
  unlisted : later.scope? stream.scope = some (parent.dismiss stream.name)
  frame : Frame (·.owner = stream.scope) store later

theorem frame_write (store : Store) (write : Write) {scope : String}
    (owned : write.key.owner = scope) : Frame (·.owner = scope) store (store.write write) :=
  Frame.write owned

namespace InOrder

variable {limit : Nat} {store : Store} {settings : Settings}

theorem operate (ordered : store.InOrder limit) (wide : settings.maxNameLength ≤ limit)
    (operation : Operation) : (store.operate settings operation).2.InOrder limit := by
  have formed := (Attempt.steady settings operation).wellFormed wide ordered.formed
  rw [(Attempt.run_steady settings operation store).2] at formed
  rw [operate_eq]
  exact ⟨ordered.indexed.apply (Operation.verdict_justified settings store operation), formed⟩

theorem operateAll (ordered : store.InOrder limit) (work : List (Settings × Operation))
    (wide : ∀ step ∈ work, step.1.maxNameLength ≤ limit) :
    (store.operateAll work).InOrder limit := by
  induction work generalizing store with
  | nil => exact ordered
  | cons step rest ih =>
    refine ih (ordered.operate (wide step List.mem_cons_self) step.2) fun other member => ?_
    exact wide other (List.mem_cons_of_mem step member)

theorem check (ordered : store.InOrder settings.maxNameLength) {operation : Operation}
    {stream : StreamId} {record : StreamRecord} (about : operation.stream? = some stream)
    (plain : operation.config? = none) (found : store.stream? stream = some record) :
    operation.check settings = .ok () := by
  have formed := ordered.formed.streams stream record found
  refine Operation.check_of_fits ?_ ?_ fun config given => nomatch plain.symm.trans given
  · cases operation <;> cases about <;> exact formed.scope
  · intro other same
    cases about.symm.trans same
    exact formed.name

theorem sealStream (ordered : store.InOrder settings.maxNameLength) {stream : StreamId}
    {record : StreamRecord} (found : store.stream? stream = some record)
    (active : record.state = .active) :
    store.operate settings (.sealStream stream) =
      (.ok true, store.write (.stream stream (record.movedTo .sealed))) := by
  have valid : (Operation.sealStream stream).check settings = .ok () := ordered.check rfl rfl found
  rw [operate_eq, Operation.verdict_of_valid valid, Operation.verdictOnValid,
    Verdict.onStream_filed ordered.indexed.filed, found]
  simp only [Verdict.ifActive, active, if_true]
  rfl

theorem deleteStream (ordered : store.InOrder settings.maxNameLength) {stream : StreamId}
    {record : StreamRecord} {parent : ScopeRecord} (found : store.stream? stream = some record)
    (closed : record.state = .sealed) (listing : store.scope? stream.scope = some parent) :
    store.operate settings (.deleteStream stream) =
      (.ok true, (store.write (.stream stream (record.movedTo .deleted))).write
        (.scope stream.scope (parent.dismiss stream.name))) := by
  have valid : (Operation.deleteStream stream).check settings = .ok () :=
    ordered.check rfl rfl found
  obtain ⟨other, same, -, both⟩ :=
    verdict_of_sealed ordered.indexed.filed ordered.indexed.listed found closed valid
  cases listing.symm.trans same
  rw [operate_eq, both]
  rfl

theorem deleteScope (ordered : store.InOrder settings.maxNameLength) {scope : String}
    (vacant : store.scope? scope = some .fresh) :
    store.operate settings (.deleteScope scope) =
      (.ok true, store.write (.scope scope .tombstone)) := by
  have fits := (ordered.formed.scopes scope .fresh vacant).name
  rw [operate_eq,
    verdict_of_empty ordered.indexed.filed vacant (Settings.checkName_iff_fits.mpr fits)]
  rfl

theorem createStream (ordered : store.InOrder settings.maxNameLength) {stream : StreamId}
    {config : StreamConfig} (gone : store.scope? stream.scope = some .tombstone)
    (fits : Fits settings.maxNameLength stream.name) (sound : config.check = .ok ()) :
    store.operate settings (.createStream stream config) =
      (.error (.scopeNotFound stream.scope), store) := by
  have valid : (Operation.createStream stream config).check settings = .ok () := by
    refine Operation.check_of_fits (ordered.formed.scopes _ _ gone).name ?_ ?_
    · rintro _ ⟨⟩
      exact fits
    · rintro _ ⟨⟩
      exact sound
  rw [operate_eq, Operation.verdict_of_valid valid, Operation.verdictOnValid,
    Verdict.onScope_filed ordered.indexed.filed, gone]
  rfl

theorem createScope (ordered : store.InOrder settings.maxNameLength) {scope : String}
    (gone : store.scope? scope = some .tombstone) :
    store.operate settings (.createScope scope) =
      (.ok true, store.write (.scope scope .fresh)) := by
  have valid : (Operation.createScope scope).check settings = .ok () :=
    Operation.check_of_fits (ordered.formed.scopes _ _ gone).name nofun nofun
  rw [operate_eq, Operation.verdict_of_valid valid, Operation.verdictOnValid,
    Verdict.onScope_filed ordered.indexed.filed, gone]
  rfl

/-- Where a scope lists nothing, all that is left of its streams are tombstones. -/
theorem deleted_of_fresh (ordered : store.InOrder limit) {stream : StreamId}
    {record : StreamRecord} (vacant : store.scope? stream.scope = some .fresh)
    (found : store.stream? stream = some record) : record.state = .deleted := by
  refine Decidable.byContradiction fun other => ?_
  have live := record.live_iff.mpr other
  exact absurd ((ordered.indexed.mem_members vacant stream.name).mpr ⟨record, found, live⟩)
    Std.ExtTreeSet.not_mem_empty

/-- An empty scope can be deleted, takes no streams then, and can be created again. -/
theorem renews_empty (ordered : store.InOrder settings.maxNameLength) {scope : String}
    (vacant : store.scope? scope = some .fresh) :
    ∃ closed reopened,
      store.operate settings (.deleteScope scope) = (.ok true, closed) ∧
      (∀ name config, settings.checkName name = .ok () → config.check = .ok () →
        closed.operate settings (.createStream ⟨scope, name⟩ config) =
          (.error (.scopeNotFound scope), closed)) ∧
      closed.operate settings (.createScope scope) = (.ok true, reopened) ∧
      reopened.InOrder settings.maxNameLength ∧ reopened.scope? scope = some .fresh ∧
      Frame (·.owner = scope) store closed ∧ Frame (·.owner = scope) store reopened := by
  have deleted := ordered.deleteScope vacant
  have closed := ordered.operate (Nat.le_refl _) (.deleteScope scope)
  rw [deleted] at closed
  have gone := (store.scope?_write_scope scope scope .tombstone).trans (if_pos rfl)
  have created := closed.createScope gone
  have reopened := closed.operate (Nat.le_refl _) (.createScope scope)
  rw [created] at reopened
  have closing := frame_write store (.scope scope .tombstone) rfl
  refine ⟨_, _, deleted, fun name config fits sound => ?_, created, reopened,
    (scope?_write_scope ..).trans (if_pos rfl), closing,
    closing.trans (frame_write _ (.scope scope .fresh) rfl)⟩
  exact closed.createStream gone (Settings.checkName_iff_fits.mp fits) sound

theorem removes_closed (ordered : store.InOrder settings.maxNameLength) {stream : StreamId}
    {record : StreamRecord} {parent : ScopeRecord} (found : store.stream? stream = some record)
    (closed : record.state = .sealed) (listing : store.scope? stream.scope = some parent) :
    ∃ later, store.operate settings (.deleteStream stream) = (.ok true, later) ∧
      Removed settings.maxNameLength stream parent store later := by
  have deleted := ordered.deleteStream found closed listing
  have kept := ordered.operate (Nat.le_refl _) (.deleteStream stream)
  rw [deleted] at kept
  refine ⟨_, deleted, kept, (scope?_write_scope ..).trans (if_pos rfl), ?_⟩
  exact (frame_write _ (.stream stream _) rfl).trans (frame_write _ (.scope stream.scope _) rfl)

end InOrder

end Store

namespace Lifecycle

open Store

variable {settings : Settings} {store : Store}

theorem run_removeStream (ordered : store.InOrder settings.maxNameLength) {stream : StreamId}
    {parent : ScopeRecord} (listing : store.scope? stream.scope = some parent)
    (member : stream.name ∈ parent.members) :
    ∃ answers later,
      (removeStream settings stream).run.run Store.service store = (.ok answers, later) ∧
      (∀ answer ∈ answers, answer = true) ∧
      Removed settings.maxNameLength stream parent store later := by
  have filed := ordered.indexed.filed
  obtain ⟨record, found, active | closed⟩ :=
    (ordered.indexed.mem_members listing stream.name).mp member
  · have asked : store.ask (.streamIsActive stream) = (.ok (.flag true), store) := by
      rw [filed.ask, answer, found]
      simp [active]
    have closing := ordered.sealStream found active
    have kept := ordered.operate (Nat.le_refl _) (.sealStream stream)
    rw [closing] at kept
    obtain ⟨later, deleted, removed⟩ := kept.removes_closed
      ((stream?_write_stream ..).trans (if_pos rfl)) rfl ((scope?_write_stream ..).trans listing)
    refine ⟨[true, true], later, ?_, by simp, removed.ordered, removed.unlisted,
      (frame_write store (.stream stream _) rfl).trans removed.frame⟩
    rw [removeStream, run_sequence_ok _ asked, if_pos rfl, run_sequence_ok _ closing,
      run_sequence_ok _ deleted]
    rfl
  · have asked : store.ask (.streamIsActive stream) = (.ok (.flag false), store) := by
      rw [filed.ask, answer, found]
      simp [closed]
    obtain ⟨later, deleted, removed⟩ := ordered.removes_closed found closed listing
    refine ⟨[true], later, ?_, by simp, removed⟩
    rw [removeStream, run_sequence_ok _ asked, if_neg (by simp), run_sequence_ok _ deleted]
    rfl

theorem run_removeStreams (ordered : store.InOrder settings.maxNameLength) {scope : String}
    {parent : ScopeRecord} (listing : store.scope? scope = some parent) {names : List String}
    (distinct : names.Nodup) (whole : ∀ name, name ∈ parent.members ↔ name ∈ names) :
    ∃ answers later,
      (removeStreams settings scope names).run.run Store.service store = (.ok answers, later) ∧
      (∀ answer ∈ answers, answer = true) ∧ later.InOrder settings.maxNameLength ∧
      later.scope? scope = some ⟨parent.state, ∅⟩ ∧ Frame (·.owner = scope) store later := by
  induction names generalizing store parent with
  | nil =>
    have none : parent.members = ∅ :=
      Std.ExtTreeSet.eq_empty_iff_forall_not_mem.mpr fun name member =>
        nomatch (whole name).mp member
    exact ⟨[], store, rfl, by simp, ordered, by rw [listing, ← none], .refl⟩
  | cons name rest ih =>
    obtain ⟨fresh, others⟩ := List.nodup_cons.mp distinct
    have placed : store.scope? (StreamId.mk scope name).scope = some parent := listing
    obtain ⟨first, middle, ran, granted, removed⟩ :=
      run_removeStream ordered placed ((whole name).mpr List.mem_cons_self)
    have remaining (other : String) : other ∈ (parent.dismiss name).members ↔ other ∈ rest := by
      rw [ScopeRecord.mem_dismiss, whole, List.mem_cons]
      constructor
      · rintro ⟨different, rfl | member⟩
        · exact absurd rfl different
        · exact member
      · exact fun member => ⟨fun same => fresh (same ▸ member), .inr member⟩
    obtain ⟨answers, later, went, agreed, kept, vacant, frame⟩ :=
      ih removed.ordered removed.unlisted others remaining
    refine ⟨first ++ answers, later, ?_, ?_, kept, vacant, removed.frame.trans frame⟩
    · rw [removeStreams, run_sequence_ok _ ran, run_sequence_ok _ went]
      rfl
    · intro answer member
      exact (List.mem_append.mp member).elim (granted answer) (agreed answer)

/-- After any work, an active scope can be taken down through a controller that allows names as long
    as any used before. The streams on its list go in whatever order, then the scope is empty and
    goes too, and takes no streams until it is created again, without any. No other scope and no
    stream of another scope is touched. -/
theorem active_scope_can_be_removed (work : List (Settings × Operation)) {scope : String}
    {parent : ScopeRecord} (found : (Store.empty.operateAll work).scope? scope = some parent)
    (active : parent.state = .active) (settings : Settings)
    (wide : ∀ step ∈ work, step.1.maxNameLength ≤ settings.maxNameLength) :
    let store := Store.empty.operateAll work
    ∃ listed, store.ask (.streams scope) = (.ok (.names listed), store) ∧
      ∀ names, names.Perm listed → ∃ answers emptied closed reopened,
        (removeStreams settings scope names).run.run Store.service store =
          (.ok answers, emptied) ∧
        (∀ answer ∈ answers, answer = true) ∧
        emptied.ask (.scopeIsEmpty scope) = (.ok (.flag true), emptied) ∧
        emptied.operate settings (.deleteScope scope) = (.ok true, closed) ∧
        (∀ name config, settings.checkName name = .ok () → config.check = .ok () →
          closed.operate settings (.createStream ⟨scope, name⟩ config) =
            (.error (.scopeNotFound scope), closed)) ∧
        closed.operate settings (.createScope scope) = (.ok true, reopened) ∧
        reopened.scope? scope = some .fresh ∧
        reopened.ask (.streams scope) = (.ok (.names []), reopened) ∧
        (∀ stream record, stream.scope = scope → reopened.stream? stream = some record →
          record.state = .deleted) ∧
        ∀ later ∈ [emptied, closed, reopened], ∀ key, key.owner ≠ scope →
          later.get key = store.get key := by
  intro store
  have ordered : store.InOrder settings.maxNameLength :=
    InOrder.operateAll ⟨.empty, .empty⟩ work wide
  have distinct := parent.nodup_members
  obtain ⟨state, members⟩ := parent
  cases active
  have asked : store.ask (.streams scope) = (.ok (.names members.toList), store) := by
    rw [ordered.indexed.filed.ask, answer, found]
  refine ⟨members.toList, asked, fun names shuffled => ?_⟩
  obtain ⟨answers, emptied, ran, granted, kept, vacant, frame⟩ :=
    run_removeStreams ordered found (shuffled.nodup_iff.mpr distinct) fun name => by
      rw [shuffled.mem_iff, Std.ExtTreeSet.mem_toList]
  obtain ⟨closed, reopened, deleted, refused, created, anew, fresh, closing, renewing⟩ :=
    kept.renews_empty vacant
  refine ⟨answers, emptied, closed, reopened, ran, granted, ?_, deleted, refused, created, fresh,
    ?_, ?_, ?_⟩
  · rw [kept.indexed.filed.ask, answer, vacant]
    rfl
  · rw [anew.indexed.filed.ask, answer, fresh]
    rfl
  · rintro stream record rfl present
    exact anew.deleted_of_fresh fresh present
  · simp only [List.forall_mem_cons]
    exact ⟨frame.others, (frame.trans closing).others, (frame.trans renewing).others, by simp⟩

/-- Work through two controllers, of which one allows short names only, that leaves in one scope an
    active stream, a sealed one and one that was deleted and created again. -/
def mixedWork : List (Settings × Operation) :=
  [({}, .createScope "s"), ({ maxNameLength := 4 }, .createStream ⟨"s", "a"⟩ {}),
    ({}, .createStream ⟨"s", "longer"⟩ {}), ({}, .sealStream ⟨"s", "longer"⟩),
    ({}, .createStream ⟨"s", "c"⟩ {}), ({}, .sealStream ⟨"s", "c"⟩),
    ({}, .deleteStream ⟨"s", "c"⟩), ({}, .createStream ⟨"s", "c"⟩ {}),
    ({}, .createScope "t"), ({}, .createStream ⟨"t", "a"⟩ {})]

theorem active_scope_can_be_removed_after_mixed_work :
    ∃ answers emptied closed reopened,
      (removeStreams {} "s" ["longer", "c", "a"]).run.run Store.service
        (Store.empty.operateAll mixedWork) = (.ok answers, emptied) ∧
      (∀ answer ∈ answers, answer = true) ∧
      emptied.operate {} (.deleteScope "s") = (.ok true, closed) ∧
      closed.operate {} (.createStream ⟨"s", "a"⟩ {}) = (.error (.scopeNotFound "s"), closed) ∧
      closed.operate {} (.createScope "s") = (.ok true, reopened) ∧
      reopened.get (.stream ⟨"t", "a"⟩) =
        (Store.empty.operateAll mixedWork).get (.stream ⟨"t", "a"⟩) := by
  have found : (Store.empty.operateAll mixedWork).scope? "s" =
      some ⟨.active, (∅ : Std.ExtTreeSet String).insertMany ["a", "longer", "c"]⟩ := by rfl
  obtain ⟨listed, asked, removable⟩ :=
    active_scope_can_be_removed mixedWork found rfl {} (by decide)
  have names : (Store.empty.operateAll mixedWork).ask (.streams "s") =
      (.ok (.names ["a", "c", "longer"]), Store.empty.operateAll mixedWork) := by rfl
  cases asked.symm.trans names
  obtain ⟨answers, emptied, closed, reopened, ran, granted, -, deleted, refused, created, -, -, -,
    others⟩ := removable ["longer", "c", "a"] (by decide)
  exact ⟨answers, emptied, closed, reopened, ran, granted, deleted,
    refused "a" {} rfl rfl, created,
    others reopened (by simp) (.stream ⟨"t", "a"⟩) (by decide)⟩

end Lifecycle

end StreamCatalog
