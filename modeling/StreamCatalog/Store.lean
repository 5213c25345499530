import Std.Data.ExtTreeMap
import StreamCatalog.Plan

namespace StreamCatalog

structure Store where
  records : Std.ExtTreeMap Key (Versioned Record)

namespace Store

def empty : Store := ⟨∅⟩

def get (store : Store) (key : Key) : Option (Versioned Record) := store.records[key]?

def version? (store : Store) (key : Key) : Option Nat := (store.get key).map (·.version)

/-- Writes a record over the version that the writer expects to find, `none` for a key without one.
    Any other version is left as it is. -/
def compareAndSet (store : Store) (key : Key) (expected : Option Nat) (record : Record) :
    Except StoreFailure (Nat × Store) :=
  let actual := store.version? key
  if actual = expected then
    let version := actual.getD 0 + 1
    .ok (version, ⟨store.records.insert key ⟨record, version⟩⟩)
  else
    .error (.versionMismatch key expected actual)

def scopeNames (store : Store) : List String :=
  store.records.keys.filterMap fun
    | .scope name => some name
    | .stream _ => none

def size (store : Store) : Nat := store.records.size

def isEmpty (store : Store) : Bool := store.records.isEmpty

def toList (store : Store) : List (Key × Versioned Record) := store.records.toList

@[simp]
theorem get_empty (key : Key) : empty.get key = none := Std.ExtTreeMap.getElem?_empty

theorem get_compareAndSet {store result : Store} {key : Key} {expected : Option Nat}
    {record : Record} {version : Nat}
    (written : store.compareAndSet key expected record = .ok (version, result)) (other : Key) :
    result.get other = if key = other then some ⟨record, version⟩ else store.get other := by
  simp only [compareAndSet] at written
  split at written
  · cases written
    simp [get, Std.ExtTreeMap.getElem?_insert]
  · cases written

def service : Service Store where
  get key store := (.ok (store.get key), store)
  compareAndSet key expected record store :=
    match store.compareAndSet key expected record with
    | .ok (version, written) => (.ok version, written)
    | .error failure => (.error failure, store)
  scopeNames store := (.ok store.scopeNames, store)
  note _ store := store

end Store

end StreamCatalog
