import StreamCatalog.Proofs.Script

namespace StreamCatalog

/-- The writes that a plan makes where nobody else writes, each with the version that it expects. -/
def Plan.writesAlone : Plan α → Store → List (Key × Option Nat)
  | done _, _ => []
  | get key next, store => (next (.ok (store.get key))).writesAlone store
  | compareAndSet key expected record next, store =>
    let reply := Store.service.compareAndSet key expected record store
    (key, expected) :: (next reply.1).writesAlone reply.2
  | scopeNames next, store => (next (.ok store.scopeNames)).writesAlone store
  | note _ next, store => next.writesAlone store

structure ContestedStore where
  store : Store
  turns : Nat := 0

namespace ContestedStore

/-- Another writer commits its record under a key just before the call to write that has this turn,
    at the version that the key has then. Nothing else goes wrong. -/
def service (turn : Nat) (foreign : Record) : Service ContestedStore where
  get key world := (.ok (world.store.get key), world)
  compareAndSet key expected record world :=
    let found := if world.turns = turn then world.store.put key foreign else world.store
    let reply := Store.service.compareAndSet key expected record found
    (reply.1, ⟨reply.2, world.turns + 1⟩)
  scopeNames world := (.ok world.store.scopeNames, world)
  note _ world := world

variable {turn : Nat} {foreign : Record} {store : Store} {key : Key} {expected : Option Nat}
  (record : Record) (next : Except StoreFailure Nat → Plan α)

theorem run_contested (current : store.version? key = expected) :
    (Plan.compareAndSet key expected record next).run (service turn foreign) ⟨store, turn⟩ =
      (next (.error (.versionMismatch key expected (some (store.writes key + 1))))).run
        (service turn foreign) ⟨store.put key foreign, turn + 1⟩ := by
  have stale : some (store.writes key + 1) ≠ expected := by
    subst current
    rw [Store.writes]
    cases store.version? key <;> simp
  have found : (store.put key foreign).version? key = some (store.writes key + 1) :=
    Store.version?_put_same store key foreign
  simp only [Plan.run, service, if_true, Store.service, Store.compareAndSet, found, if_neg stale]

theorem run_uncontested {turns : Nat} (quiet : turns ≠ turn)
    (current : store.version? key = expected) :
    (Plan.compareAndSet key expected record next).run (service turn foreign) ⟨store, turns⟩ =
      (next (.ok (expected.getD 0 + 1))).run (service turn foreign)
        ⟨store.put key record, turns + 1⟩ := by
  simp only [Plan.run, service, if_neg quiet, Store.service, Store.compareAndSet_current current]

end ContestedStore

namespace Plan

theorem run_of_answer {plan : Plan α} {answer : α} (ended : plan.answer? = some answer)
    (turn : Nat) (foreign : Record) (world : ContestedStore) :
    plan.run (ContestedStore.service turn foreign) world = (answer, world) := by
  induction plan with
  | done given =>
    cases ended
    rfl
  | get key next ih => cases ended
  | compareAndSet key expected record next ih => cases ended
  | scopeNames next ih => cases ended
  | note notice next ih => exact ih ended

theorem writesAlone_of_answer {plan : Plan α} {answer : α} (ended : plan.answer? = some answer)
    (store : Store) : plan.writesAlone store = [] := by
  induction plan with
  | done given => rfl
  | get key next ih => cases ended
  | compareAndSet key expected record next ih => cases ended
  | scopeNames next ih => cases ended
  | note notice next ih => exact ih ended

theorem writesAlone_compareAndSet {store : Store} {key : Key} {expected : Option Nat}
    (current : store.version? key = expected) (record : Record)
    (next : Except StoreFailure Nat → Plan α) :
    (compareAndSet key expected record next).writesAlone store =
      (key, expected) :: (next (.ok (expected.getD 0 + 1))).writesAlone (store.put key record) := by
  simp only [writesAlone, Store.service, Store.compareAndSet_current current]

end Plan

/-- How an operation ends that has lost a key to another writer. -/
structure LostRace (store : Store) (key : Key) (foreign : Record)
    (ended : Except Error Bool × ContestedStore) : Prop where
  answer : ended.1 = .error (.store
    (.versionMismatch key (store.version? key) (some ((store.version? key).getD 0 + 1))))
  values : ∀ other, ended.2.store.value? other =
    if key = other then some foreign else store.value? other
  kept : ended.2.store.get key = some ⟨foreign, (store.version? key).getD 0 + 1⟩

theorem Change.apart {settings : Settings} {store : Store} {operation : Operation}
    {first undo second : Write}
    (change : Change settings store operation (.both first undo second)) :
    first.key ≠ second.key := by
  cases change <;> simp [Write.key]

namespace Plan.Follows

variable {store : Store} {plan : Plan (Except Error Bool)} {turn : Nat} {key : Key}
  {expected : Option Nat}

theorem lose_first {next : Except StoreFailure Nat → Plan (Except Error Bool)}
    (failed : ∀ failure, (next (.error failure)).answer? = some (.error (.store failure)))
    (write : Write) (foreign : Record) :
    LostRace store write.key foreign
      ((compareAndSet write.key (store.version? write.key) write.record next).run
        (ContestedStore.service 0 foreign) ⟨store, 0⟩) := by
  rw [ContestedStore.run_contested write.record next rfl, run_of_answer (failed _)]
  refine ⟨rfl, fun other => Store.value?_put store write.key other foreign, ?_⟩
  rw [Store.get_put, if_pos rfl]

theorem lose_second {first undo second : Write}
    {next : Except StoreFailure Nat → Plan (Except Error Bool)}
    (written : (next (.ok (store.writes first.key + 1))).Completes store first undo second)
    (apart : first.key ≠ second.key) (same : undo.key = first.key)
    (previous : store.value? undo.key = some undo.record) (foreign : Record) :
    LostRace store second.key foreign
      ((compareAndSet first.key (store.version? first.key) first.record next).run
        (ContestedStore.service 1 foreign) ⟨store, 0⟩) := by
  obtain ⟨after, half, -, undone⟩ := written
  have untouched : (store.put first.key first.record).version? second.key =
      store.version? second.key := Store.version?_put_other apart store first.record
  -- The other writer has not touched the first key, so the version to be put back over is mine.
  obtain ⟨last, restoring, ended⟩ := undone
    (.versionMismatch second.key (store.version? second.key)
      (some ((store.put first.key first.record).writes second.key + 1)))
  have mine : ((store.put first.key first.record).put second.key foreign).version? undo.key =
      some (store.writes first.key + 1) := by
    rw [same, Store.version?_put_other apart.symm, Store.version?_put_same]
    rfl
  rw [ContestedStore.run_uncontested first.record next (by decide) rfl, ← Store.writes, half,
    ContestedStore.run_contested second.record after untouched, restoring,
    ContestedStore.run_uncontested undo.record last (by decide) mine, run_of_answer (ended _)]
  refine ⟨?_, fun other => ?_, ?_⟩
  · rw [Store.writes, untouched]
  · rw [Store.value?_put, Store.value?_put, Store.value?_put, same]
    by_cases here : first.key = other
    · subst here
      rw [if_pos rfl, if_neg apart.symm, ← same, previous]
    · rw [if_neg here, if_neg here]
  · rw [Store.get_put, same, if_neg apart, Store.get_put, if_pos rfl, untouched]

theorem lose {verdict : Verdict} (follows : plan.Follows store verdict)
    (restores : ∀ first undo second, verdict = .both first undo second →
      first.key ≠ second.key ∧ undo.key = first.key ∧ store.value? undo.key = some undo.record)
    (write : (plan.writesAlone store)[turn]? = some (key, expected)) (foreign : Record) :
    expected = store.version? key ∧
      LostRace store key foreign
        (plan.run (ContestedStore.service turn foreign) ⟨store, 0⟩) := by
  induction follows with
  | refuse ended => simp [writesAlone_of_answer ended] at write
  | idle ended => simp [writesAlone_of_answer ended] at write
  | get rest ih => exact ih restores write
  | @one only next written failed =>
    rw [writesAlone_compareAndSet rfl, writesAlone_of_answer (written _)] at write
    cases turn with
    | zero =>
      cases write
      exact ⟨rfl, lose_first failed only foreign⟩
    | succ more => cases write
  | @both first undo second next written failed =>
    obtain ⟨apart, same, previous⟩ := restores first undo second rfl
    have lost := lose_second written apart same previous foreign
    obtain ⟨after, half, made, -⟩ := written
    have untouched := Store.version?_put_other apart store first.record
    rw [writesAlone_compareAndSet rfl, ← Store.writes, half, writesAlone_compareAndSet untouched,
      writesAlone_of_answer (made _)] at write
    rcases turn with _ | _ | more
    · cases write
      exact ⟨rfl, lose_first failed first foreign⟩
    · cases write
      exact ⟨rfl, lost⟩
    · cases write

end Plan.Follows

namespace Operation

/-- Whoever loses one of its writes to another fails, and leaves nothing but what the other has
    written: the record that the other made stays, at the version that the failure tells. -/
theorem lost_race_leaves_the_winner (settings : Settings) (operation : Operation) (store : Store)
    (foreign : Record) (turn : Nat) (key : Key) (expected : Option Nat)
    (write : ((operation.plan settings).run.writesAlone store)[turn]? = some (key, expected)) :
    expected = store.version? key ∧
      LostRace store key foreign
        ((operation.plan settings).run.run (ContestedStore.service turn foreign) ⟨store, 0⟩) := by
  have follows := operation.plan_follows settings store
  refine follows.lose (fun first undo second two => ?_) write foreign
  have justified := operation.verdict_justified settings store
  rw [two] at justified
  have change := justified.both
  exact ⟨change.apart, change.restores⟩

def closedStream : Record := .stream ⟨.sealed, {}, 0, 0⟩

def closedStore : Store :=
  (Store.empty.put (.scope "s") (.scope (ScopeRecord.fresh.enroll "a"))).put
    (.stream ⟨"s", "a"⟩) closedStream

theorem lost_race_leaves_the_winner_of_the_list :
    let plan := ((deleteStream ⟨"s", "a"⟩).plan {}).run
    let ended := plan.run (ContestedStore.service 1 closedStream) ⟨closedStore, 0⟩
    plan.writesAlone closedStore = [(.stream ⟨"s", "a"⟩, some 1), (.scope "s", some 1)] ∧
      ended.1 = .error (.store (.versionMismatch (.scope "s") (some 1) (some 2))) ∧
      ended.2.store.value? (.stream ⟨"s", "a"⟩) = some closedStream ∧
      ended.2.store.get (.scope "s") = some ⟨closedStream, 2⟩ := by
  intro plan ended
  have writes : plan.writesAlone closedStore =
      [(.stream ⟨"s", "a"⟩, some 1), (.scope "s", some 1)] := by rfl
  obtain ⟨-, lost⟩ := lost_race_leaves_the_winner {} (.deleteStream ⟨"s", "a"⟩) closedStore
    closedStream 1 (.scope "s") (some 1) (by rfl)
  exact ⟨writes, lost.answer, lost.values (.stream ⟨"s", "a"⟩), lost.kept⟩

end Operation

end StreamCatalog
