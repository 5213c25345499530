import StreamCatalog.Proofs.Attempt

namespace StreamCatalog

structure Event where
  settings : Settings
  operation : Operation
  result : Except Error Bool
  lostWrites : List Key

def Event.RollBackLost (event : Event) : Prop := event.operation.RollBackLost event.lostWrites

instance (event : Event) : Decidable event.RollBackLost :=
  inferInstanceAs (Decidable (event.operation.RollBackLost event.lostWrites))

def Attempt.event (attempt : Attempt) (store : Store) : Event :=
  ⟨attempt.settings, attempt.operation, (attempt.run store).1, (attempt.run store).2.lostWrites⟩

def Attempt.after (attempt : Attempt) (store : Store) : Store := (attempt.run store).2.store

theorem Attempt.after_of_fault (attempt : Attempt) (store : Store) {error : Error}
    (fault : attempt.operation.check attempt.settings = .error error) :
    attempt.after store = store := by
  unfold after run Operation.plan
  rw [fault]
  rfl

/-- What depends on the records alone, and outlives every change and the first half of one, outlives
    an attempt. -/
theorem Attempt.keeps {holds : Store → Prop} {attempt : Attempt} {store : Store}
    (same : ∀ later, store.SameRecords later → holds later)
    (changed : ∀ verdict, Change attempt.settings store attempt.operation verdict →
      holds (verdict.apply store))
    (half : ∀ first undo second, Change attempt.settings store attempt.operation
      (.both first undo second) → holds (store.write first)) :
    holds (attempt.after store) := by
  have effect := attempt.effect store
  unfold Attempt.after
  generalize attempt.run store = ended at effect
  cases effect with
  | kept quiet restored kept => exact same _ kept
  | changed change calls => exact changed _ change
  | half change calls => exact half _ _ _ change

theorem Attempt.filed (attempt : Attempt) {store : Store} (filed : store.Filed) :
    (attempt.after store).Filed :=
  Attempt.keeps (fun _ same => filed.congr same)
    (fun verdict _ => Verdict.apply_filed filed verdict) (fun first _ _ _ => filed.write first)

/-- The stores that can be reached from a first one, with their histories, the latest first. -/
inductive Run (start : Store) : List Event → Store → Prop where
  | start : Run start [] start
  | step {past : List Event} {store : Store} (run : Run start past store) (attempt : Attempt) :
    Run start (attempt.event store :: past) (attempt.after store)

theorem Run.filed {past : List Event} {store : Store} (run : Run .empty past store) :
    store.Filed := by
  induction run with
  | start => exact .empty
  | step run attempt ih => exact attempt.filed ih

end StreamCatalog
