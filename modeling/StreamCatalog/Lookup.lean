import StreamCatalog.Plan

namespace StreamCatalog

namespace Fetch

def get (key : Key) : Fetch (Option (Versioned Record)) := ExceptT.mk (.get key .done)

def compareAndSet (key : Key) (expected : Option Nat) (record : Record) : Fetch Nat :=
  ExceptT.mk (.compareAndSet key expected record .done)

def scopeNames : Fetch (List String) := ExceptT.mk (.scopeNames .done)

end Fetch

namespace Lookup

def scopeRecord (name : String) : Fetch (Option (Versioned ScopeRecord)) := do
  match ← Fetch.get (.scope name) with
  | none => return none
  | some ⟨.scope record, version⟩ => return some ⟨record, version⟩
  | some ⟨.stream _, _⟩ => throw (.unexpectedRecord (.scope name))

def streamRecord (stream : StreamId) : Fetch (Option (Versioned StreamRecord)) := do
  match ← Fetch.get (.stream stream) with
  | none => return none
  | some ⟨.stream record, version⟩ => return some ⟨record, version⟩
  | some ⟨.scope _, _⟩ => throw (.unexpectedRecord (.stream stream))

def scopeExists (name : String) : Fetch Bool := do
  match ← scopeRecord name with
  | some scope => return scope.value.state = .active
  | none => return false

/-- Whether a scope has no live streams. One that is absent has none. -/
def scopeIsEmpty (name : String) : Fetch Bool := do
  match ← scopeRecord name with
  | some scope => return scope.value.members.isEmpty
  | none => return true

def keepActive : List String → Fetch (List String)
  | [] => return []
  | name :: rest => do
    let active ← scopeExists name
    let others ← keepActive rest
    return if active then name :: others else others

def scopes : Fetch (List String) := do
  let names ← Fetch.scopeNames
  let active ← keepActive names
  return active.mergeSort

def streamExists (stream : StreamId) : Fetch Bool := do
  match ← streamRecord stream with
  | some present => return present.value.state ≠ .deleted
  | none => return false

/-- What is known of a stream; a deleted one is still reported. -/
def streamInfo (stream : StreamId) : Fetch (Option StreamInfo) := do
  match ← streamRecord stream with
  | some present => return some ⟨stream, present.value⟩
  | none => return none

def streamIsActive (stream : StreamId) : Fetch Bool := do
  match ← streamInfo stream with
  | some info => return info.record.state = .active
  | none => return false

end Lookup

end StreamCatalog
