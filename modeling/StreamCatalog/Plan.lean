import StreamCatalog.Notice

namespace StreamCatalog

/-- Work on a store of records, laid out call by call: which call comes next, and how the work goes
    on from its reply, whatever that is. So one plan can be run on a store that always answers, on
    one that sometimes fails, and step by step among others. -/
inductive Plan (α : Type) where
  | done (answer : α)
  | get (key : Key) (next : Except StoreFailure (Option (Versioned Record)) → Plan α)
  | compareAndSet (key : Key) (expected : Option Nat) (record : Record)
      (next : Except StoreFailure Nat → Plan α)
  /-- Asks for the names of all scopes on record, in whatever order the store has them. -/
  | scopeNames (next : Except StoreFailure (List String) → Plan α)
  | note (notice : Notice) (next : Plan α)

namespace Plan

protected def bind : Plan α → (α → Plan β) → Plan β
  | done answer, rest => rest answer
  | get key next, rest => get key fun reply => (next reply).bind rest
  | compareAndSet key expected record next, rest =>
    compareAndSet key expected record fun reply => (next reply).bind rest
  | scopeNames next, rest => scopeNames fun reply => (next reply).bind rest
  | note notice next, rest => note notice (next.bind rest)

instance : Monad Plan where
  pure := done
  bind := Plan.bind

theorem bind_done (plan : Plan α) : plan.bind done = plan := by
  induction plan with
  | done answer => rfl
  | get key next ih => exact congrArg (get key) (funext ih)
  | compareAndSet key expected record next ih =>
    exact congrArg (compareAndSet key expected record) (funext ih)
  | scopeNames next ih => exact congrArg scopeNames (funext ih)
  | note notice next ih => exact congrArg (note notice) ih

theorem bind_assoc (plan : Plan α) (middle : α → Plan β) (last : β → Plan γ) :
    (plan.bind middle).bind last = plan.bind fun answer => (middle answer).bind last := by
  induction plan with
  | done answer => rfl
  | get key next ih => exact congrArg (get key) (funext ih)
  | compareAndSet key expected record next ih =>
    exact congrArg (compareAndSet key expected record) (funext ih)
  | scopeNames next ih => exact congrArg scopeNames (funext ih)
  | note notice next ih => exact congrArg (note notice) ih

instance : LawfulMonad Plan := LawfulMonad.mk' Plan bind_done (fun _ _ => rfl) bind_assoc

end Plan

structure Service (σ : Type) where
  get : Key → σ → Except StoreFailure (Option (Versioned Record)) × σ
  compareAndSet : Key → Option Nat → Record → σ → Except StoreFailure Nat × σ
  scopeNames : σ → Except StoreFailure (List String) × σ
  note : Notice → σ → σ

def Plan.run (service : Service σ) : Plan α → σ → α × σ
  | done answer, world => (answer, world)
  | get key next, world =>
    let reply := service.get key world
    (next reply.1).run service reply.2
  | compareAndSet key expected record next, world =>
    let reply := service.compareAndSet key expected record world
    (next reply.1).run service reply.2
  | scopeNames next, world =>
    let reply := service.scopeNames world
    (next reply.1).run service reply.2
  | note notice next, world => next.run service (service.note notice world)

theorem Plan.run_bind (service : Service σ) (plan : Plan α) (rest : α → Plan β) (world : σ) :
    (plan.bind rest).run service world =
      (rest (plan.run service world).1).run service (plan.run service world).2 := by
  induction plan generalizing world with
  | done answer => rfl
  | get key next ih => exact ih _ _
  | compareAndSet key expected record next ih => exact ih _ _
  | scopeNames next ih => exact ih _ _
  | note notice next ih => exact ih _

abbrev Fetch := ExceptT StoreFailure Plan

abbrev Action := ExceptT Error Plan

instance : MonadLift Fetch Action := ⟨ExceptT.adapt .store⟩

def note (notice : Notice) : Plan Unit := .note notice (.done ())

end StreamCatalog
