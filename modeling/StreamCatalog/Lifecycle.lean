import StreamCatalog.Lookup
import StreamCatalog.Settings

namespace StreamCatalog

namespace Lifecycle

open Lookup

def putScope (name : String) (expected : Option Nat) (record : ScopeRecord) : Fetch Nat :=
  Fetch.compareAndSet (.scope name) expected (.scope record)

def putStream (stream : StreamId) (expected : Option Nat) (record : StreamRecord) : Fetch Nat :=
  Fetch.compareAndSet (.stream stream) expected (.stream record)

def createScope (name : String) : Action Bool := do
  let current ← scopeRecord name
  match ScopeVerb.create.transition (current.map (·.value.state)) false with
  | .apply _ =>
    let _ ← putScope name (current.map (·.version)) .fresh
    note (.scopeCreated name)
    return true
  | .noOp =>
    note (.scopeAlreadyExists name)
    return false
  | .reject reason => throw (reason.onScope name 0)

def deleteScope (name : String) : Action Bool := do
  let current ← scopeRecord name
  let members := (current.map (·.value.members.size)).getD 0
  match ScopeVerb.delete.transition (current.map (·.value.state)) (0 < members) with
  | .apply _ =>
    let _ ← putScope name (current.map (·.version)) .tombstone
    note (.scopeDeleted name)
    return true
  | .noOp =>
    note (.scopeAlreadyAbsent name)
    return false
  | .reject reason =>
    note (.scopeDeletionRejected name members)
    throw (reason.onScope name members)

def rollBackScope (name : String) (version : Nat) (previous : ScopeRecord) : Plan Unit := do
  match ← (putScope name (some version) previous).run with
  | .ok _ => return ()
  | .error failure => note (.scopeRollBackFailed name failure)

def rollBackStream (stream : StreamId) (version : Nat) (previous : StreamRecord) : Plan Unit := do
  match ← (putStream stream (some version) previous).run with
  | .ok _ => return ()
  | .error failure => note (.streamRollBackFailed stream failure)

def nextIncarnation (previous : Option StreamRecord) (config : StreamConfig) : StreamRecord :=
  match previous with
  | some record => record.successor config
  | none => .initial config

/-- The scope lists its new member before the stream is written: a live stream is always listed. -/
def createStream (nameReuse : Bool) (stream : StreamId) (config : StreamConfig) : Action Bool := do
  let scope ← scopeRecord stream.scope
  let some parent := scope.filter (·.value.state = .active)
    | note (.streamWithoutScope stream)
      throw (Rejection.scopeNotFound.onStream stream)
  let current ← streamRecord stream
  let state := current.map (·.value.state)
  match StreamVerb.create.transition state nameReuse with
  | .apply _ =>
    let listed ← putScope stream.scope (some parent.version) (parent.value.enroll stream.name)
    let record := nextIncarnation (current.map (·.value)) config
    match ← (putStream stream (current.map (·.version)) record).run with
    | .ok _ =>
      note (.streamCreated stream record.generation config.segmentCount)
      return true
    | .error failure =>
      rollBackScope stream.scope listed parent.value
      throw (.store failure)
  | .noOp =>
    note (.streamAlreadyExists stream state)
    return false
  | .reject reason => throw (reason.onStream stream)

def updateStream (nameReuse : Bool) (stream : StreamId) (config : StreamConfig) : Action Bool := do
  let current ← streamRecord stream
  let state := current.map (·.value.state)
  match StreamVerb.update.transition state nameReuse, current with
  | .apply _, some present =>
    let record := present.value.reconfigured config
    let _ ← putStream stream (some present.version) record
    note (.streamUpdated stream record.epoch config.segmentCount)
    return true
  | .reject reason, _ =>
    note (.streamUpdateRejected stream state)
    throw (reason.onStream stream)
  -- The table has no other entry for an update.
  | _, _ => return false

def sealStream (nameReuse : Bool) (stream : StreamId) : Action Bool := do
  let current ← streamRecord stream
  let state := current.map (·.value.state)
  match StreamVerb.seal.transition state nameReuse, current with
  | .apply next, some present =>
    let _ ← putStream stream (some present.version) (present.value.movedTo next)
    note (.streamSealed stream present.value.epoch)
    return true
  | .reject reason, _ =>
    note (.streamSealRejected stream state)
    throw (reason.onStream stream)
  -- The table has no other entry for sealing.
  | _, _ => return false

/-- Takes the name of a deleted stream off its scope's list, if it is there. If that fails the
    stream is put back. -/
def dismissStream (stream : StreamId) (parent : Option (Versioned ScopeRecord)) (version : Nat)
    (previous : StreamRecord) : Action Unit := do
  let some scope := parent.filter (·.value.members.contains stream.name) | return ()
  match ← (putScope stream.scope (some scope.version) (scope.value.dismiss stream.name)).run with
  | .ok _ => return ()
  | .error failure =>
    rollBackStream stream version previous
    throw (.store failure)

/-- The stream is marked deleted before its scope forgets it. -/
def deleteStream (nameReuse : Bool) (stream : StreamId) : Action Bool := do
  let current ← streamRecord stream
  let state := current.map (·.value.state)
  match StreamVerb.delete.transition state nameReuse, current with
  | .apply next, some present =>
    let parent ← scopeRecord stream.scope
    let version ← putStream stream (some present.version) (present.value.movedTo next)
    dismissStream stream parent version present.value
    note (.streamDeleted stream)
    return true
  | .reject reason, _ =>
    note (.streamDeletionRejected stream state)
    throw (reason.onStream stream)
  | _, _ =>
    note (.streamAlreadyAbsent stream)
    return false

end Lifecycle

/-- An operation answers `true` if it changed something, `false` if what it asks for holds. -/
inductive Operation where
  | createScope (scope : String)
  | deleteScope (scope : String)
  | createStream (stream : StreamId) (config : StreamConfig)
  | updateStream (stream : StreamId) (config : StreamConfig)
  | sealStream (stream : StreamId)
  | deleteStream (stream : StreamId)
  deriving DecidableEq, Repr

namespace Operation

def stream? : Operation → Option StreamId
  | createScope _ | deleteScope _ => none
  | createStream stream _ | updateStream stream _ | sealStream stream | deleteStream stream =>
    some stream

def scope : Operation → String
  | createScope scope | deleteScope scope => scope
  | createStream stream _ | updateStream stream _ | sealStream stream | deleteStream stream =>
    stream.scope

def config? : Operation → Option StreamConfig
  | createStream _ config | updateStream _ config => some config
  | createScope _ | deleteScope _ | sealStream _ | deleteStream _ => none

def isDeletion : Operation → Bool
  | deleteScope _ | deleteStream _ => true
  | createScope _ | createStream _ _ | updateStream _ _ | sealStream _ => false

/-- What can be wrong with an operation before any record is read: the name of the scope, then the
    stream's, then the configuration. -/
def check (settings : Settings) (operation : Operation) : Except Error Unit := do
  settings.checkName operation.scope
  if let some stream := operation.stream? then
    settings.checkName stream.name
  if let some config := operation.config? then
    config.check.mapError .invalidConfig

def perform (settings : Settings) : Operation → Action Bool
  | createScope scope => Lifecycle.createScope scope
  | deleteScope scope => Lifecycle.deleteScope scope
  | createStream stream config => Lifecycle.createStream settings.nameReuse stream config
  | updateStream stream config => Lifecycle.updateStream settings.nameReuse stream config
  | sealStream stream => Lifecycle.sealStream settings.nameReuse stream
  | deleteStream stream => Lifecycle.deleteStream settings.nameReuse stream

def plan (settings : Settings) (operation : Operation) : Action Bool := do
  operation.check settings
  operation.perform settings

end Operation

end StreamCatalog
