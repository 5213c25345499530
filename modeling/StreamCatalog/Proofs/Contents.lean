import StreamCatalog.Store

namespace StreamCatalog

def StreamRecord.Live (record : StreamRecord) : Prop :=
  record.state = .active ∨ record.state = .sealed

instance : DecidablePred StreamRecord.Live :=
  fun record => inferInstanceAs (Decidable (record.state = .active ∨ record.state = .sealed))

theorem StreamRecord.live_iff (record : StreamRecord) :
    record.Live ↔ record.state ≠ .deleted := by
  unfold Live
  cases record.state <;> simp

/-- A record together with a key of its own kind. -/
inductive Write where
  | scope (name : String) (record : ScopeRecord)
  | stream (stream : StreamId) (record : StreamRecord)

namespace Write

def key : Write → Key
  | .scope name _ => .scope name
  | .stream id _ => .stream id

def record : Write → Record
  | .scope _ record => .scope record
  | .stream _ record => .stream record

end Write

namespace Store

def value? (store : Store) (key : Key) : Option Record := (store.get key).map (·.value)

/-- The record of a scope. A record of the other kind counts as none. -/
def scope? (store : Store) (name : String) : Option ScopeRecord :=
  match store.value? (.scope name) with
  | some (.scope record) => some record
  | _ => none

def stream? (store : Store) (stream : StreamId) : Option StreamRecord :=
  match store.value? (.stream stream) with
  | some (.stream record) => some record
  | _ => none

def put (store : Store) (key : Key) (record : Record) : Store :=
  ⟨store.records.insert key ⟨record, (store.version? key).getD 0 + 1⟩⟩

theorem get_put (store : Store) (key other : Key) (record : Record) :
    (store.put key record).get other =
      if key = other then some ⟨record, (store.version? key).getD 0 + 1⟩ else store.get other := by
  simp [put, get, Std.ExtTreeMap.getElem?_insert]

@[simp]
theorem version?_put_same (store : Store) (key : Key) (record : Record) :
    (store.put key record).version? key = some ((store.version? key).getD 0 + 1) := by
  simp [version?, get_put]

theorem version?_put_other {key other : Key} (different : key ≠ other) (store : Store)
    (record : Record) : (store.put key record).version? other = store.version? other := by
  simp [version?, get_put, different]

@[simp]
theorem value?_empty (key : Key) : empty.value? key = none := by simp [value?]

theorem value?_put (store : Store) (key other : Key) (record : Record) :
    (store.put key record).value? other =
      if key = other then some record else store.value? other := by
  by_cases same : key = other <;> simp [value?, get_put, same]

theorem compareAndSet_current {store : Store} {key : Key} {expected : Option Nat}
    (current : store.version? key = expected) (record : Record) :
    store.compareAndSet key expected record =
      .ok (expected.getD 0 + 1, store.put key record) := by
  subst current
  simp [compareAndSet, put]

def write (store : Store) (write : Write) : Store := store.put write.key write.record

theorem get_write (store : Store) (write : Write) (key : Key) :
    (store.write write).get key =
      if write.key = key then some ⟨write.record, (store.version? key).getD 0 + 1⟩
      else store.get key := by
  rw [Store.write, get_put]
  split
  · rename_i same
    rw [same]
  · rfl

/-- Two stores that hold the same records, at whatever versions. -/
def SameRecords (store later : Store) : Prop := ∀ key, later.value? key = store.value? key

theorem SameRecords.swap {first second : Write} (apart : first.key ≠ second.key) (store : Store) :
    SameRecords ((store.write second).write first) ((store.write first).write second) := by
  intro key
  simp only [Store.write, Store.value?_put]
  by_cases here : second.key = key
  · subst here
    simp [apart]
  · simp [here]

theorem SameRecords.write {store later : Store} (same : SameRecords store later) (write : Write) :
    SameRecords (store.write write) (later.write write) := by
  intro key
  have elsewhere := same key
  simp only [Store.write, Store.value?_put, elsewhere]

theorem SameRecords.again (store : Store) (write : Write) :
    SameRecords (store.write write) ((store.write write).write write) := by
  intro key
  simp only [Store.write, Store.value?_put]
  split <;> rfl

theorem SameRecords.scope? {store later : Store} (same : SameRecords store later) (name : String) :
    later.scope? name = store.scope? name := by
  rw [Store.scope?, same]
  rfl

theorem SameRecords.stream? {store later : Store} (same : SameRecords store later)
    (stream : StreamId) : later.stream? stream = store.stream? stream := by
  rw [Store.stream?, same]
  rfl

/-- Every record is of the kind that its key names. -/
structure Filed (store : Store) : Prop where
  scopes : ∀ name record, store.value? (.scope name) = some record → ∃ scope, record = .scope scope
  streams : ∀ id record, store.value? (.stream id) = some record → ∃ stream, record = .stream stream

namespace Filed

theorem empty : Filed .empty := ⟨by simp, by simp⟩

variable {store later : Store}

theorem congr (filed : store.Filed) (same : SameRecords store later) : later.Filed := by
  refine ⟨fun name record found => filed.scopes name record ?_,
    fun id record found => filed.streams id record ?_⟩
  · rw [← same, found]
  · rw [← same, found]

theorem write (filed : store.Filed) : (write : Write) → (store.write write).Filed
  | .scope written record => by
    refine ⟨fun name present found => ?_, fun id present found => ?_⟩
    · rw [Store.write, value?_put] at found
      split at found
      · exact ⟨record, (Option.some.inj found).symm⟩
      · exact filed.scopes name present found
    · rw [Store.write, value?_put, if_neg nofun] at found
      exact filed.streams id present found
  | .stream written record => by
    refine ⟨fun name present found => ?_, fun id present found => ?_⟩
    · rw [Store.write, value?_put, if_neg nofun] at found
      exact filed.scopes name present found
    · rw [Store.write, value?_put] at found
      split at found
      · exact ⟨record, (Option.some.inj found).symm⟩
      · exact filed.streams id present found

theorem value?_stream (filed : store.Filed) (id : StreamId) :
    store.value? (.stream id) = (store.stream? id).map .stream := by
  unfold Store.stream?
  cases found : store.value? (.stream id) with
  | none => rfl
  | some record =>
    obtain ⟨stream, rfl⟩ := filed.streams id record found
    rfl

end Filed

section Writes

variable (store : Store)

@[simp]
theorem scope?_write_scope (name other : String) (record : ScopeRecord) :
    (store.write (.scope name record)).scope? other =
      if name = other then some record else store.scope? other := by
  by_cases same : name = other <;>
    simp [write, Write.key, Write.record, scope?, value?_put, same]

@[simp]
theorem scope?_write_stream (stream : StreamId) (record : StreamRecord) (name : String) :
    (store.write (.stream stream record)).scope? name = store.scope? name := by
  simp [write, Write.key, scope?, value?_put]

@[simp]
theorem stream?_write_stream (stream other : StreamId) (record : StreamRecord) :
    (store.write (.stream stream record)).stream? other =
      if stream = other then some record else store.stream? other := by
  by_cases same : stream = other <;>
    simp [write, Write.key, Write.record, stream?, value?_put, same]

@[simp]
theorem stream?_write_scope (name : String) (record : ScopeRecord) (stream : StreamId) :
    (store.write (.scope name record)).stream? stream = store.stream? stream := by
  simp [write, Write.key, stream?, value?_put]

end Writes

def readScope (store : Store) (name : String) :
    Except StoreFailure (Option (Versioned ScopeRecord)) :=
  match store.get (.scope name) with
  | none => .ok none
  | some ⟨.scope record, version⟩ => .ok (some ⟨record, version⟩)
  | some ⟨.stream _, _⟩ => .error (.unexpectedRecord (.scope name))

def readStream (store : Store) (stream : StreamId) :
    Except StoreFailure (Option (Versioned StreamRecord)) :=
  match store.get (.stream stream) with
  | none => .ok none
  | some ⟨.stream record, version⟩ => .ok (some ⟨record, version⟩)
  | some ⟨.scope _, _⟩ => .error (.unexpectedRecord (.stream stream))

theorem get_of_readScope {store : Store} {name : String} {current : Option (Versioned ScopeRecord)}
    (read : store.readScope name = .ok current) :
    store.get (.scope name) = current.map fun found => ⟨.scope found.value, found.version⟩ := by
  unfold readScope at read
  split at read
  · rename_i absent
    cases read
    exact absent
  · rename_i present
    cases read
    exact present
  · cases read

theorem get_of_readStream {store : Store} {stream : StreamId}
    {current : Option (Versioned StreamRecord)} (read : store.readStream stream = .ok current) :
    store.get (.stream stream) = current.map fun found => ⟨.stream found.value, found.version⟩ := by
  unfold readStream at read
  split at read
  · rename_i absent
    cases read
    exact absent
  · rename_i present
    cases read
    exact present
  · cases read

section Reads

variable {store : Store} {name : String} {stream : StreamId}

theorem scope?_of_readScope {current : Option (Versioned ScopeRecord)}
    (read : store.readScope name = .ok current) : store.scope? name = current.map (·.value) := by
  rw [scope?, value?, get_of_readScope read]
  cases current <;> rfl

theorem stream?_of_readStream {current : Option (Versioned StreamRecord)}
    (read : store.readStream stream = .ok current) :
    store.stream? stream = current.map (·.value) := by
  rw [stream?, value?, get_of_readStream read]
  cases current <;> rfl

theorem version?_of_readScope {current : Option (Versioned ScopeRecord)}
    (read : store.readScope name = .ok current) :
    store.version? (.scope name) = current.map (·.version) := by
  rw [version?, get_of_readScope read]
  cases current <;> rfl

theorem version?_of_readStream {current : Option (Versioned StreamRecord)}
    (read : store.readStream stream = .ok current) :
    store.version? (.stream stream) = current.map (·.version) := by
  rw [version?, get_of_readStream read]
  cases current <;> rfl

theorem value?_of_scope? {record : ScopeRecord} (found : store.scope? name = some record) :
    store.value? (.scope name) = some (.scope record) := by
  unfold scope? at found
  split at found
  · rename_i present
    cases found
    exact present
  · cases found

theorem value?_of_stream? {record : StreamRecord} (found : store.stream? stream = some record) :
    store.value? (.stream stream) = some (.stream record) := by
  unfold stream? at found
  split at found
  · rename_i present
    cases found
    exact present
  · cases found

theorem readScope_of_scope? {record : ScopeRecord} (found : store.scope? name = some record) :
    ∃ version, store.readScope name = .ok (some ⟨record, version⟩) := by
  have present := value?_of_scope? found
  unfold value? at present
  obtain ⟨⟨value, version⟩, got, same⟩ := Option.map_eq_some_iff.mp present
  cases same
  exact ⟨version, by rw [readScope, got]⟩

end Reads

namespace Filed

variable {store : Store} (filed : store.Filed)

include filed

theorem readScope (name : String) :
    ∃ current, store.readScope name = .ok current ∧ store.scope? name = current.map (·.value) := by
  cases read : store.readScope name with
  | ok current => exact ⟨current, rfl, scope?_of_readScope read⟩
  | error failure =>
    unfold Store.readScope at read
    split at read
    · cases read
    · cases read
    · rename_i record version present
      have found : store.value? (.scope name) = some (.stream record) := by
        rw [value?, present]
        rfl
      obtain ⟨scope, wrong⟩ := filed.scopes name _ found
      cases wrong

theorem readStream (stream : StreamId) :
    ∃ current, store.readStream stream = .ok current ∧
      store.stream? stream = current.map (·.value) := by
  cases read : store.readStream stream with
  | ok current => exact ⟨current, rfl, stream?_of_readStream read⟩
  | error failure =>
    unfold Store.readStream at read
    split at read
    · cases read
    · cases read
    · rename_i record version present
      have found : store.value? (.stream stream) = some (.scope record) := by
        rw [value?, present]
        rfl
      obtain ⟨kept, wrong⟩ := filed.streams stream _ found
      cases wrong

end Filed

end Store

end StreamCatalog
