import StreamCatalog.Proofs.Contents
import StreamCatalog.Lifecycle

namespace StreamCatalog

/-- What an operation comes to on a store that answers every call. -/
inductive Verdict where
  | refuse (error : Error)
  | idle
  | one (write : Write)
  /-- Two records change. If the second write fails, the first is taken back by `undo`. -/
  | both (first undo second : Write)

def isFree (nameReuse : Bool) : Option StreamRecord → Bool
  | none => true
  | some record => record.state = .deleted && nameReuse

namespace Verdict

def result : Verdict → Except Error Bool
  | refuse error => .error error
  | idle => .ok false
  | one _ | both _ _ _ => .ok true

def apply (store : Store) : Verdict → Store
  | refuse _ | idle => store
  | one write => store.write write
  | both first _ second => (store.write first).write second

theorem apply_filed {store : Store} (filed : store.Filed) :
    (verdict : Verdict) → (verdict.apply store).Filed
  | refuse _ | idle => filed
  | one write => filed.write write
  | both first _ second => (filed.write first).write second

def onScope (store : Store) (name : String) (judge : Option ScopeRecord → Verdict) : Verdict :=
  match store.readScope name with
  | .error failure => refuse (.store failure)
  | .ok current => judge (current.map (·.value))

def onStream (store : Store) (stream : StreamId) (judge : Option StreamRecord → Verdict) :
    Verdict :=
  match store.readStream stream with
  | .error failure => refuse (.store failure)
  | .ok current => judge (current.map (·.value))

theorem onScope_eq (store : Store) (name : String) (judge : Option ScopeRecord → Verdict) :
    onScope store name judge =
      match store.value? (.scope name) with
      | none => judge none
      | some (.scope record) => judge (some record)
      | some (.stream _) => refuse (.store (.unexpectedRecord (.scope name))) := by
  unfold onScope Store.readScope Store.value?
  rcases store.get (.scope name) with _ | ⟨_ | _, version⟩ <;> rfl

theorem onStream_eq (store : Store) (stream : StreamId) (judge : Option StreamRecord → Verdict) :
    onStream store stream judge =
      match store.value? (.stream stream) with
      | none => judge none
      | some (.stream record) => judge (some record)
      | some (.scope _) => refuse (.store (.unexpectedRecord (.stream stream))) := by
  unfold onStream Store.readStream Store.value?
  rcases store.get (.stream stream) with _ | ⟨_ | _, version⟩ <;> rfl

section Filed

variable {store : Store} (filed : store.Filed)

include filed

theorem onScope_filed (name : String) (judge : Option ScopeRecord → Verdict) :
    onScope store name judge = judge (store.scope? name) := by
  obtain ⟨current, read, found⟩ := filed.readScope name
  rw [onScope, read, found]

theorem onStream_filed (stream : StreamId) (judge : Option StreamRecord → Verdict) :
    onStream store stream judge = judge (store.stream? stream) := by
  obtain ⟨current, read, found⟩ := filed.readStream stream
  rw [onStream, read, found]

end Filed

def createScope (name : String) : Option ScopeRecord → Verdict
  | none | some ⟨.deleted, _⟩ => one (.scope name .fresh)
  | some ⟨.active, _⟩ => idle

def deleteScope (name : String) : Option ScopeRecord → Verdict
  | none | some ⟨.deleted, _⟩ => idle
  | some ⟨.active, members⟩ =>
    if 0 < members.size then refuse (.scopeNotEmpty name members.size)
    else one (.scope name .tombstone)

def enroll (nameReuse : Bool) (stream : StreamId) (config : StreamConfig) (parent : ScopeRecord)
    (previous : Option StreamRecord) : Verdict :=
  if isFree nameReuse previous then
    both (.scope stream.scope (parent.enroll stream.name)) (.scope stream.scope parent)
      (.stream stream (Lifecycle.nextIncarnation previous config))
  else idle

def createStream (nameReuse : Bool) (store : Store) (stream : StreamId) (config : StreamConfig) :
    Option ScopeRecord → Verdict
  | none | some ⟨.deleted, _⟩ => refuse (.scopeNotFound stream.scope)
  | some ⟨.active, members⟩ =>
    onStream store stream (enroll nameReuse stream config ⟨.active, members⟩)

def ifActive (stream : StreamId) (change : StreamRecord → StreamRecord) :
    Option StreamRecord → Verdict
  | some record =>
    if record.state = .active then one (.stream stream (change record))
    else refuse (.streamNotActive stream)
  | none => refuse (.streamNotActive stream)

/-- What comes of deleting a sealed stream: if its scope lists it, the scope changes too. -/
def dismiss (stream : StreamId) (record : StreamRecord) (parent : Option ScopeRecord) : Verdict :=
  match parent.filter (·.members.contains stream.name) with
  | none => one (.stream stream (record.movedTo .deleted))
  | some scope =>
    both (.stream stream (record.movedTo .deleted)) (.stream stream record)
      (.scope stream.scope (scope.dismiss stream.name))

theorem dismiss_cases (stream : StreamId) (record : StreamRecord) (parent : Option ScopeRecord) :
    (∃ scope, parent = some scope ∧ stream.name ∈ scope.members ∧
      dismiss stream record parent =
        both (.stream stream (record.movedTo .deleted)) (.stream stream record)
          (.scope stream.scope (scope.dismiss stream.name))) ∨
    (∀ scope, parent = some scope → stream.name ∉ scope.members) ∧
      dismiss stream record parent = one (.stream stream (record.movedTo .deleted)) := by
  unfold dismiss
  cases kept : parent.filter (·.members.contains stream.name) with
  | none =>
    refine .inr ⟨fun scope present listed => ?_, rfl⟩
    have dropped := Option.filter_eq_none_iff.mp kept scope present
    exact dropped (Std.ExtTreeSet.contains_iff_mem.mpr listed)
  | some scope =>
    obtain ⟨present, listed⟩ := Option.filter_eq_some_iff.mp kept
    exact .inl ⟨scope, present, Std.ExtTreeSet.contains_iff_mem.mp listed, rfl⟩

def deleteStream (store : Store) (stream : StreamId) : Option StreamRecord → Verdict
  | none => idle
  | some record =>
    match record.state with
    | .deleted => idle
    | .active => refuse (.streamNotSealed stream)
    | .sealed => onScope store stream.scope (dismiss stream record)

end Verdict

namespace Operation

def verdictOnValid (settings : Settings) (store : Store) : Operation → Verdict
  | createScope scope => .onScope store scope (.createScope scope)
  | deleteScope scope => .onScope store scope (.deleteScope scope)
  | createStream stream config =>
    .onScope store stream.scope (.createStream settings.nameReuse store stream config)
  | updateStream stream config => .onStream store stream (.ifActive stream (·.reconfigured config))
  | sealStream stream => .onStream store stream (.ifActive stream (·.movedTo .sealed))
  | deleteStream stream => .onStream store stream (.deleteStream store stream)

def verdict (settings : Settings) (store : Store) (operation : Operation) : Verdict :=
  match operation.check settings with
  | .error error => .refuse error
  | .ok _ => operation.verdictOnValid settings store

end Operation

namespace Store.SameRecords

variable {store later : Store} (same : SameRecords store later)

include same

theorem onScope (name : String) (judge : Option ScopeRecord → Verdict) :
    Verdict.onScope later name judge = Verdict.onScope store name judge := by
  rw [Verdict.onScope_eq, Verdict.onScope_eq, same]

theorem onStream (stream : StreamId) (judge : Option StreamRecord → Verdict) :
    Verdict.onStream later stream judge = Verdict.onStream store stream judge := by
  rw [Verdict.onStream_eq, Verdict.onStream_eq, same]

/-- A verdict does not depend on the versions of the records. -/
theorem verdict (settings : Settings) (operation : Operation) :
    operation.verdict settings later = operation.verdict settings store := by
  have creation (stream : StreamId) (config : StreamConfig) :
      Verdict.createStream settings.nameReuse later stream config =
        Verdict.createStream settings.nameReuse store stream config := by
    funext parent
    rcases parent with _ | ⟨_ | _, members⟩
    · rfl
    · exact same.onStream stream _
    · rfl
  have deletion (stream : StreamId) :
      Verdict.deleteStream later stream = Verdict.deleteStream store stream := by
    funext current
    rcases current with _ | ⟨_ | _ | _, config, epoch, generation⟩
    · rfl
    · rfl
    · exact same.onScope stream.scope _
    · rfl
  unfold Operation.verdict
  split
  · rfl
  · cases operation with
    | createScope name => exact same.onScope name _
    | deleteScope name => exact same.onScope name _
    | createStream stream config =>
      simp only [Operation.verdictOnValid, creation]
      exact same.onScope stream.scope _
    | updateStream stream config => exact same.onStream stream _
    | sealStream stream => exact same.onStream stream _
    | deleteStream stream =>
      simp only [Operation.verdictOnValid, deletion]
      exact same.onStream stream _

theorem apply (verdict : Verdict) : SameRecords (verdict.apply store) (verdict.apply later) := by
  cases verdict with
  | refuse error => exact same
  | idle => exact same
  | one only => exact same.write only
  | both first undo second => exact (same.write first).write second

end Store.SameRecords

end StreamCatalog
