import StreamCatalog.Proofs.MemberIndex

namespace StreamCatalog

namespace ScopeRecord

def list (record : ScopeRecord) (name : String) : Bool → ScopeRecord
  | true => record.enroll name
  | false => record.dismiss name

theorem state_list (record : ScopeRecord) (name : String) (listed : Bool) :
    (record.list name listed).state = record.state := by
  cases listed <;> rfl

theorem mem_list (record : ScopeRecord) (name other : String) (listed : Bool) :
    other ∈ (record.list name listed).members ↔
      if name = other then listed = true else other ∈ record.members := by
  cases listed with
  | true => by_cases same : name = other <;> simp [list, mem_enroll, same]
  | false => by_cases same : name = other <;> simp [list, mem_dismiss, same]

theorem list_comm {first second : String} (different : first ≠ second) (record : ScopeRecord)
    (one two : Bool) :
    (record.list first one).list second two = (record.list second two).list first one := by
  have states : ((record.list first one).list second two).state =
      ((record.list second two).list first one).state := by simp only [state_list]
  have members : ((record.list first one).list second two).members =
      ((record.list second two).list first one).members := by
    apply Std.ExtTreeSet.ext_mem
    intro name
    simp only [mem_list]
    by_cases here : first = name
    · subst here
      simp [different.symm]
    · simp [here]
  generalize (record.list first one).list second two = left at *
  cases left
  cases states
  cases members
  rfl

end ScopeRecord

def Versioned.relisted (name : String) (listed : Bool) : Versioned Record → Versioned Record
  | ⟨.scope record, version⟩ => ⟨.scope (record.list name listed), version + 1⟩
  | ⟨.stream record, version⟩ => ⟨.stream record, version⟩

theorem Versioned.relisted_comm {first second : String} (different : first ≠ second)
    (one two : Bool) (present : Versioned Record) :
    (present.relisted first one).relisted second two =
      (present.relisted second two).relisted first one := by
  rcases present with ⟨record | record, version⟩
  · simp only [relisted, ScopeRecord.list_comm different]
  · rfl

namespace Store

theorem ext_get {store other : Store} (same : ∀ key, store.get key = other.get key) :
    store = other := by
  cases store
  cases other
  exact congrArg Store.mk (Std.ExtTreeMap.ext_getElem? same)

def relist (store : Store) (stream : StreamId) (listed : Bool) : Store :=
  match store.value? (.scope stream.scope) with
  | some (.scope record) => store.write (.scope stream.scope (record.list stream.name listed))
  | _ => store

theorem relist_of_scope {store : Store} {stream : StreamId} {record : ScopeRecord}
    (found : store.value? (.scope stream.scope) = some (.scope record)) (listed : Bool) :
    store.relist stream listed =
      store.write (.scope stream.scope (record.list stream.name listed)) := by
  rw [relist, found]

theorem get_relist (store : Store) (stream : StreamId) (listed : Bool) (key : Key) :
    (store.relist stream listed).get key =
      if .scope stream.scope = key then
        (store.get key).map (Versioned.relisted stream.name listed)
      else store.get key := by
  unfold relist
  by_cases here : Key.scope stream.scope = key
  · subst here
    rw [if_pos rfl, value?]
    rcases found : store.get (.scope stream.scope) with _ | ⟨_ | _, version⟩
    · exact found
    · simp [get_write, Write.key, Write.record, version?, found, Versioned.relisted]
    · exact found
  · rw [if_neg here]
    split
    · rw [get_write, if_neg (by simpa [Write.key] using here)]
    · rfl

theorem relist_comm {first second : StreamId} (different : first ≠ second) (store : Store)
    (one two : Bool) :
    (store.relist first one).relist second two = (store.relist second two).relist first one := by
  apply ext_get
  intro key
  simp only [get_relist]
  by_cases here : Key.scope first.scope = key
  · by_cases there : Key.scope second.scope = key
    · have names : first.name ≠ second.name := by
        intro same
        exact different (StreamId.ext (Key.scope.inj (here.trans there.symm)) same)
      simp only [here, there, if_true, Option.map_map]
      congr 1
      funext present
      exact Versioned.relisted_comm names one two present
    · simp only [here, there, if_true, if_false]
  · simp only [here, if_false]

theorem write_comm {first second : Write} (apart : first.key ≠ second.key) (store : Store) :
    (store.write first).write second = (store.write second).write first := by
  apply ext_get
  intro key
  simp only [get_write, version?]
  by_cases here : first.key = key
  · subst here
    simp [apart.symm]
  · simp [here]

theorem relist_write_comm (stream target : StreamId) (record : StreamRecord) (store : Store)
    (listed : Bool) :
    (store.write (.stream target record)).relist stream listed =
      (store.relist stream listed).write (.stream target record) := by
  apply ext_get
  intro key
  simp only [get_write, get_relist, version?, Write.key, Write.record]
  cases key <;> simp

end Store

/-- What an operation finds of the scope of its stream: the state, and whether the stream is on the
    list. -/
inductive ScopeView where
  | absent
  | odd
  | present (state : ScopeState) (lists : Bool)

def Store.scopeView (store : Store) (stream : StreamId) : ScopeView :=
  match store.value? (.scope stream.scope) with
  | none => .absent
  | some (.stream _) => .odd
  | some (.scope record) => .present record.state (record.members.contains stream.name)

/-- What an operation does for its stream. -/
structure Edit where
  answer : Except Error Bool
  record : Option StreamRecord
  /-- Whether the stream comes to be on the list, if the list is written. -/
  listed : Option Bool

namespace Edit

def refuse (error : Error) : Edit := ⟨.error error, none, none⟩

def idle : Edit := ⟨.ok false, none, none⟩

def apply (edit : Edit) (stream : StreamId) (store : Store) : Store :=
  let listed := match edit.listed with
    | some listed => store.relist stream listed
    | none => store
  match edit.record with
  | some record => listed.write (.stream stream record)
  | none => listed

def onRecord (stream : StreamId) (found : Option Record) (judge : Option StreamRecord → Edit) :
    Edit :=
  match found with
  | none => judge none
  | some (.stream record) => judge (some record)
  | some (.scope _) => refuse (.store (.unexpectedRecord (.stream stream)))

def enroll (nameReuse : Bool) (config : StreamConfig) (previous : Option StreamRecord) : Edit :=
  if isFree nameReuse previous then
    ⟨.ok true, some (Lifecycle.nextIncarnation previous config), some true⟩
  else idle

def create (nameReuse : Bool) (stream : StreamId) (config : StreamConfig) (found : Option Record) :
    ScopeView → Edit
  | .odd => refuse (.store (.unexpectedRecord (.scope stream.scope)))
  | .absent | .present .deleted _ => refuse (.scopeNotFound stream.scope)
  | .present .active _ => onRecord stream found (enroll nameReuse config)

def ifActive (stream : StreamId) (change : StreamRecord → StreamRecord) :
    Option StreamRecord → Edit
  | some record =>
    if record.state = .active then ⟨.ok true, some (change record), none⟩
    else refuse (.streamNotActive stream)
  | none => refuse (.streamNotActive stream)

def delete (stream : StreamId) (view : ScopeView) : Option StreamRecord → Edit
  | none => idle
  | some record =>
    match record.state, view with
    | .deleted, _ => idle
    | .active, _ => refuse (.streamNotSealed stream)
    | .sealed, .odd => refuse (.store (.unexpectedRecord (.scope stream.scope)))
    | .sealed, .present _ true => ⟨.ok true, some (record.movedTo .deleted), some false⟩
    | .sealed, .absent | .sealed, .present _ false =>
      ⟨.ok true, some (record.movedTo .deleted), none⟩

theorem apply_comm {first second : StreamId} (different : first ≠ second) (one two : Edit)
    (store : Store) :
    two.apply second (one.apply first store) = one.apply first (two.apply second store) := by
  rcases one with ⟨-, firstRecord, firstListed⟩
  rcases two with ⟨-, secondRecord, secondListed⟩
  have apart (record other : StreamRecord) :
      (Write.stream first record).key ≠ (Write.stream second other).key := by
    simpa [Write.key] using different
  unfold apply
  rcases firstRecord with _ | record <;> rcases secondRecord with _ | other <;>
    rcases firstListed with _ | one <;> rcases secondListed with _ | two <;>
    simp only [Store.relist_write_comm, Store.relist_comm different]
  all_goals rw [Store.write_comm (apart record other)]

section Others

variable {stream other : StreamId} (different : stream ≠ other) (edit : Edit) (store : Store)

include different

theorem get_apply_stream_other :
    (edit.apply stream store).get (.stream other) = store.get (.stream other) := by
  have written (record : StreamRecord) : (Write.stream stream record).key ≠ .stream other := by
    simpa [Write.key] using different
  unfold apply
  rcases edit.record with _ | record <;> rcases edit.listed with _ | listed <;>
    simp [Store.get_relist, Store.get_write, written]

theorem scopeView_apply_other :
    (edit.apply stream store).scopeView other = store.scopeView other := by
  have relisted (listed : Bool) (store : Store) :
      (store.relist stream listed).scopeView other = store.scopeView other := by
    unfold Store.scopeView Store.value?
    rw [Store.get_relist]
    by_cases here : Key.scope stream.scope = .scope other.scope
    · have names : stream.name ≠ other.name := by
        intro same
        exact different (StreamId.ext (Key.scope.inj here) same)
      rw [if_pos here]
      rcases store.get (.scope other.scope) with _ | ⟨record | record, version⟩
      · rfl
      · have member : (record.list stream.name listed).members.contains other.name =
            record.members.contains other.name := by
          rw [Bool.eq_iff_iff]
          simp [ScopeRecord.mem_list, names]
        simp [Versioned.relisted, ScopeRecord.state_list, member]
      · rfl
    · rw [if_neg here]
  have written (record : StreamRecord) (store : Store) :
      (store.write (.stream stream record)).scopeView other = store.scopeView other := by
    unfold Store.scopeView Store.value?
    rw [Store.get_write, if_neg (by simp [Write.key])]
  unfold apply
  rcases edit.record with _ | record <;> rcases edit.listed with _ | listed <;>
    simp [relisted, written]

end Others

end Edit

def Operation.edit (settings : Settings) (stream : StreamId) (found : Option Record)
    (view : ScopeView) (operation : Operation) : Edit :=
  match operation.check settings, operation with
  | .error error, _ => .refuse error
  | .ok _, .createStream _ config => .create settings.nameReuse stream config found view
  | .ok _, .updateStream _ config =>
    .onRecord stream found (.ifActive stream (·.reconfigured config))
  | .ok _, .sealStream _ => .onRecord stream found (.ifActive stream (·.movedTo .sealed))
  | .ok _, .deleteStream _ => .onRecord stream found (.delete stream view)
  | .ok _, .createScope _ | .ok _, .deleteScope _ => .idle

structure Edit.Describes (edit : Edit) (stream : StreamId) (store : Store) (verdict : Verdict) :
    Prop where
  answer : verdict.result = edit.answer
  store : verdict.apply store = edit.apply stream store

namespace Edit.Describes

variable {stream : StreamId} {store : Store}

theorem refuse (error : Error) : (Edit.refuse error).Describes stream store (.refuse error) :=
  ⟨rfl, rfl⟩

theorem onRecord {judge : Option StreamRecord → Verdict} {edits : Option StreamRecord → Edit}
    (same : ∀ record, (edits record).Describes stream store (judge record)) :
    (Edit.onRecord stream (store.value? (.stream stream)) edits).Describes stream store
      (.onStream store stream judge) := by
  rw [Verdict.onStream_eq]
  rcases store.value? (.stream stream) with _ | _ | _
  · exact same none
  · exact .refuse _
  · exact same _

theorem ifActive (change : StreamRecord → StreamRecord) (record : Option StreamRecord) :
    (Edit.ifActive stream change record).Describes stream store
      (.ifActive stream change record) := by
  rcases record with _ | record
  · exact .refuse _
  · simp only [Edit.ifActive, Verdict.ifActive]
    split
    · exact ⟨rfl, rfl⟩
    · exact .refuse _

theorem enroll {parent : ScopeRecord}
    (scope : store.value? (.scope stream.scope) = some (.scope parent)) (nameReuse : Bool)
    (config : StreamConfig) (previous : Option StreamRecord) :
    (Edit.enroll nameReuse config previous).Describes stream store
      (.enroll nameReuse stream config parent previous) := by
  unfold Edit.enroll Verdict.enroll
  split
  · have listed := Store.relist_of_scope scope true
    exact ⟨rfl, congrArg (Store.write · (.stream stream _)) listed.symm⟩
  · exact ⟨rfl, rfl⟩

theorem create (nameReuse : Bool) (config : StreamConfig) :
    (Edit.create nameReuse stream config (store.value? (.stream stream))
      (store.scopeView stream)).Describes stream store
      (.onScope store stream.scope (.createStream nameReuse store stream config)) := by
  rw [Verdict.onScope_eq, Store.scopeView]
  rcases scope : store.value? (.scope stream.scope) with _ | ⟨_ | _, members⟩ | _
  · exact .refuse _
  · exact .onRecord (.enroll scope nameReuse config)
  · exact .refuse _
  · exact .refuse _

theorem delete (record : Option StreamRecord) :
    (Edit.delete stream (store.scopeView stream) record).Describes stream store
      (.deleteStream store stream record) := by
  rcases record with _ | ⟨_ | _ | _, config, epoch, generation⟩
  · exact ⟨rfl, rfl⟩
  · exact .refuse _
  · rw [Store.scopeView, Verdict.deleteStream, Verdict.onScope_eq]
    rcases scope : store.value? (.scope stream.scope) with _ | parent | _
    · exact ⟨rfl, rfl⟩
    · cases listed : parent.members.contains stream.name with
      | true =>
        simp only [Verdict.dismiss, Option.filter_some, listed, if_true]
        refine ⟨rfl, ?_⟩
        have kept (record : StreamRecord) :
            (store.write (.stream stream record)).value? (.scope stream.scope) =
              some (.scope parent) := by
          rw [Store.write, Store.value?_put, if_neg (by simp [Write.key]), scope]
        rw [Verdict.apply]
        refine (Store.relist_of_scope (kept _) false).symm.trans ?_
        exact Store.relist_write_comm stream stream _ store false
      | false =>
        simp only [Verdict.dismiss, Option.filter_some, listed, Bool.false_eq_true, if_false]
        exact ⟨rfl, rfl⟩
    · exact .refuse _
  · exact ⟨rfl, rfl⟩

end Edit.Describes

/-- An operation on a stream edits that stream as its own records say. -/
theorem Operation.edit_describes {operation : Operation} {stream : StreamId}
    (addressed : operation.stream? = some stream) (settings : Settings) (store : Store) :
    (operation.edit settings stream (store.value? (.stream stream))
      (store.scopeView stream)).Describes stream store (operation.verdict settings store) := by
  unfold edit verdict
  cases operation.check settings with
  | error error => exact .refuse error
  | ok valid =>
    cases operation with
    | createScope scope => cases addressed
    | deleteScope scope => cases addressed
    | createStream target config =>
      cases addressed
      exact .create settings.nameReuse config
    | updateStream target config =>
      cases addressed
      exact .onRecord (.ifActive _)
    | sealStream target =>
      cases addressed
      exact .onRecord (.ifActive _)
    | deleteStream target =>
      cases addressed
      exact .onRecord .delete

end StreamCatalog
