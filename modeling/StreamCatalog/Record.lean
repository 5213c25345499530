import Std.Data.ExtTreeSet
import StreamCatalog.Config
import StreamCatalog.Key

namespace StreamCatalog

inductive ScopeState where
  | active
  | deleted
  deriving DecidableEq, Repr

inductive StreamState where
  | active
  | sealed
  | deleted
  deriving DecidableEq, Repr

def ScopeState.display : ScopeState → String
  | .active => "Active"
  | .deleted => "Deleted"

def StreamState.display : StreamState → String
  | .active => "Active"
  | .sealed => "Sealed"
  | .deleted => "Deleted"

/-- A scope lists the names of its live streams, so that a deletion need not search for them. -/
structure ScopeRecord where
  state : ScopeState
  members : Std.ExtTreeSet String
  deriving DecidableEq

def ScopeRecord.fresh : ScopeRecord := ⟨.active, ∅⟩

def ScopeRecord.tombstone : ScopeRecord := ⟨.deleted, ∅⟩

def ScopeRecord.enroll (record : ScopeRecord) (name : String) : ScopeRecord :=
  { record with members := record.members.insert name }

def ScopeRecord.dismiss (record : ScopeRecord) (name : String) : ScopeRecord :=
  { record with members := record.members.erase name }

/-- The epoch counts the updates of the configuration since the stream was last created; the
    generation counts how often the name was created again. Both counters, like the version of a
    `Versioned` value, are unbounded: they agree with 64-bit ones below 2 ^ 64. -/
structure StreamRecord where
  state : StreamState
  config : StreamConfig
  epoch : Nat
  generation : Nat
  deriving DecidableEq, Repr

def StreamRecord.initial (config : StreamConfig) : StreamRecord := ⟨.active, config, 0, 0⟩

def StreamRecord.successor (record : StreamRecord) (config : StreamConfig) : StreamRecord :=
  ⟨.active, config, 0, record.generation + 1⟩

/-- Every update takes a new epoch, also one to the same configuration. -/
def StreamRecord.reconfigured (record : StreamRecord) (config : StreamConfig) : StreamRecord :=
  { record with config := config, epoch := record.epoch + 1 }

def StreamRecord.movedTo (record : StreamRecord) (state : StreamState) : StreamRecord :=
  { record with state := state }

/-- Records are never removed: a deleted scope or stream stays as a tombstone. -/
inductive Record where
  | scope (record : ScopeRecord)
  | stream (record : StreamRecord)
  deriving DecidableEq

/-- A value and the number of writes that its key has seen. -/
structure Versioned (α : Type) where
  value : α
  version : Nat
  deriving DecidableEq, Repr

structure StreamInfo where
  stream : StreamId
  record : StreamRecord
  deriving DecidableEq, Repr

end StreamCatalog
