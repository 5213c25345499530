import StreamCatalog.Store

namespace StreamCatalog

inductive CallKind where
  | get
  | compareAndSet
  | scopeNames
  deriving DecidableEq, Repr

inductive Effect where
  | unavailable (message : String)
  | absent
  /-- Another writer gets in just before a write. -/
  | race
  deriving DecidableEq, Repr

structure Fault where
  kind : CallKind
  key : Option Key := none
  /-- How many calls pass before it strikes. -/
  skip : Nat := 0
  times : Nat := 1
  effect : Effect
  deriving DecidableEq, Repr

namespace Fault

def awaits (fault : Fault) (kind : CallKind) (key : Option Key) : Bool :=
  fault.kind = kind && 0 < fault.times && (fault.key = none || fault.key = key)

/-- The first fault that awaits a call counts it, and no other does. -/
def strike (kind : CallKind) (key : Option Key) : List Fault → Option Effect × List Fault
  | [] => (none, [])
  | fault :: rest =>
    if fault.awaits kind key then
      if 0 < fault.skip then (none, { fault with skip := fault.skip - 1 } :: rest)
      else (some fault.effect, { fault with times := fault.times - 1 } :: rest)
    else
      let others := strike kind key rest
      (others.1, fault :: others.2)

end Fault

structure FaultyStore where
  store : Store := .empty
  /-- Whether the lock of the store has been left broken, so that every call fails. -/
  poisoned : Bool := false
  faults : List Fault := []
  notices : Array Notice := #[]

namespace FaultyStore

def poisonError : StoreFailure := .unavailable "store lock poisoned"

def report (world : FaultyStore) (notice : Notice) : FaultyStore :=
  { world with notices := world.notices.push notice }

def strike (world : FaultyStore) (kind : CallKind) (key : Option Key) :
    Option Effect × FaultyStore :=
  let struck := Fault.strike kind key world.faults
  (struck.1, { world with faults := struck.2 })

def answer (world : FaultyStore) (value : Store → α) : Except StoreFailure α :=
  if world.poisoned then .error poisonError else .ok (value world.store)

def write (world : FaultyStore) (key : Key) (expected : Option Nat) (record : Record) :
    Except StoreFailure Nat × FaultyStore :=
  if world.poisoned then (.error poisonError, world)
  else match world.store.compareAndSet key expected record with
    | .ok (version, store) => (.ok version, { world with store })
    | .error failure =>
      (.error failure, world.report (.writeRefused key expected (world.store.version? key)))

/-- Another writer commits under the key: what is there already, or else the given record. -/
def overtake (world : FaultyStore) (key : Key) (record : Record) : FaultyStore :=
  match world.store.get key with
  | some present => (world.write key (some present.version) present.value).2
  | none => (world.write key none record).2

def get (key : Key) (world : FaultyStore) :
    Except StoreFailure (Option (Versioned Record)) × FaultyStore :=
  match world.strike .get (some key) with
  | (some (.unavailable message), world) => (.error (.unavailable message), world)
  | (some .absent, world) => (.ok none, world)
  | (_, world) => (world.answer (·.get key), world)

def compareAndSet (key : Key) (expected : Option Nat) (record : Record) (world : FaultyStore) :
    Except StoreFailure Nat × FaultyStore :=
  match world.strike .compareAndSet (some key) with
  | (some (.unavailable message), world) => (.error (.unavailable message), world)
  | (some .race, world) => (world.overtake key record).write key expected record
  | (_, world) => world.write key expected record

/-- The names come in decreasing order. -/
def scopeNames (world : FaultyStore) : Except StoreFailure (List String) × FaultyStore :=
  match world.strike .scopeNames none with
  | (some (.unavailable message), world) => (.error (.unavailable message), world)
  | (_, world) => (world.answer (·.scopeNames.reverse), world)

def service : Service FaultyStore where
  get := get
  compareAndSet := compareAndSet
  scopeNames := scopeNames
  note notice world := world.report notice

def size (world : FaultyStore) : Nat := if world.poisoned then 0 else world.store.size

def dump (world : FaultyStore) : Except StoreFailure (List (Key × Versioned Record)) :=
  world.answer (·.toList)

end FaultyStore

end StreamCatalog
