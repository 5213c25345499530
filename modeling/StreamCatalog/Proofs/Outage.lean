import StreamCatalog.Proofs.Contents
import StreamCatalog.Proofs.Execution
import StreamCatalog.Lifecycle

namespace StreamCatalog

/-- For each call by its number, from 0: the text it fails with, if it fails. -/
abbrev Outages := Nat → Option String

structure UnsteadyStore where
  store : Store
  calls : Nat := 0
  /-- The keys of the writes that failed, the latest last. -/
  lostWrites : List Key := []

namespace UnsteadyStore

def next (world : UnsteadyStore) : UnsteadyStore := { world with calls := world.calls + 1 }

def lose (world : UnsteadyStore) (key : Key) : UnsteadyStore :=
  { world.next with lostWrites := world.lostWrites ++ [key] }

def commit (world : UnsteadyStore) (key : Key) (record : Record) : UnsteadyStore :=
  { world.next with store := world.store.put key record }

def service (outages : Outages) : Service UnsteadyStore where
  get key world :=
    match outages world.calls with
    | some text => (.error (.unavailable text), world.next)
    | none => (.ok (world.store.get key), world.next)
  compareAndSet key expected record world :=
    match outages world.calls with
    | some text => (.error (.unavailable text), world.lose key)
    | none =>
      match world.store.compareAndSet key expected record with
      | .ok (version, store) => (.ok version, { world.next with store })
      | .error failure => (.error failure, world.next)
  scopeNames world :=
    match outages world.calls with
    | some text => (.error (.unavailable text), world.next)
    | none => (.ok world.store.scopeNames, world.next)
  note _ world := world

end UnsteadyStore

def Plan.attempt (plan : Plan α) (outages : Outages) (store : Store) : α × UnsteadyStore :=
  plan.run (UnsteadyStore.service outages) { store }

theorem Plan.run_steady (plan : Plan α) (world : UnsteadyStore) :
    (plan.run (UnsteadyStore.service fun _ => none) world).1 =
        (plan.run Store.service world.store).1 ∧
      (plan.run (UnsteadyStore.service fun _ => none) world).2.store =
        (plan.run Store.service world.store).2 := by
  induction plan generalizing world with
  | done answer => exact ⟨rfl, rfl⟩
  | get key next ih => exact ih _ _
  | compareAndSet key expected record next ih =>
    simp only [Plan.run, UnsteadyStore.service, Store.service]
    cases world.store.compareAndSet key expected record <;> exact ih _ _
  | scopeNames next ih => exact ih _ _
  | note notice next ih => exact ih _

namespace UnsteadyStore

variable (outages : Outages) (world : UnsteadyStore)

theorem run_scopeRecord (name : String) :
    (Lookup.scopeRecord name).run.run (service outages) world =
      match outages world.calls with
      | some text => (.error (.unavailable text), world.next)
      | none => (world.store.readScope name, world.next) := by
  have call : (Fetch.get (.scope name)).run.run (service outages) world =
      (service outages).get (.scope name) world := rfl
  rw [Lookup.scopeRecord, run_sequence, call]
  cases lost : outages world.calls with
  | some text => simp only [service, lost]
  | none =>
    simp only [service, lost, Store.readScope]
    rcases world.store.get (.scope name) with _ | ⟨_ | _, version⟩ <;> rfl

theorem run_streamRecord (stream : StreamId) :
    (Lookup.streamRecord stream).run.run (service outages) world =
      match outages world.calls with
      | some text => (.error (.unavailable text), world.next)
      | none => (world.store.readStream stream, world.next) := by
  have call : (Fetch.get (.stream stream)).run.run (service outages) world =
      (service outages).get (.stream stream) world := rfl
  rw [Lookup.streamRecord, run_sequence, call]
  cases lost : outages world.calls with
  | some text => simp only [service, lost]
  | none =>
    simp only [service, lost, Store.readStream]
    rcases world.store.get (.stream stream) with _ | ⟨_ | _, version⟩ <;> rfl

theorem run_compareAndSet {key : Key} {expected : Option Nat}
    (current : world.store.version? key = expected) (record : Record) :
    (Fetch.compareAndSet key expected record).run.run (service outages) world =
      match outages world.calls with
      | some text => (.error (.unavailable text), world.lose key)
      | none => (.ok (expected.getD 0 + 1), world.commit key record) := by
  have call : (Fetch.compareAndSet key expected record).run.run (service outages) world =
      (service outages).compareAndSet key expected record world := rfl
  rw [call]
  cases lost : outages world.calls with
  | some text => simp only [service, lost]
  | none => simp only [service, lost, Store.compareAndSet_current current, commit]

end UnsteadyStore

end StreamCatalog
