import StreamCatalog.Proofs.Change
import StreamCatalog.Proofs.Commit

namespace StreamCatalog

def Operation.Targets (operation : Operation) (key : Key) : Prop :=
  key = .scope operation.scope ∨ ∃ stream, operation.stream? = some stream ∧ key = .stream stream

/-- Whether the writes that an operation lost, in order, are its second write and then the write
    that was to take the first one back. -/
def Operation.RollBackLost : Operation → List Key → Prop
  | .createStream stream _, lost => lost = [.stream stream, .scope stream.scope]
  | .deleteStream stream, lost => lost = [.scope stream.scope, .stream stream]
  | _, _ => False

instance (operation : Operation) (lost : List Key) : Decidable (operation.RollBackLost lost) :=
  match operation with
  | .createStream stream _ =>
    inferInstanceAs (Decidable (lost = [.stream stream, .scope stream.scope]))
  | .deleteStream stream =>
    inferInstanceAs (Decidable (lost = [.scope stream.scope, .stream stream]))
  | .createScope _ | .deleteScope _ | .updateStream _ _ | .sealStream _ =>
    inferInstanceAs (Decidable False)

structure Attempt where
  settings : Settings
  operation : Operation
  outages : Outages

def Attempt.steady (settings : Settings) (operation : Operation) : Attempt :=
  ⟨settings, operation, fun _ => none⟩

def Attempt.run (attempt : Attempt) (store : Store) : Except Error Bool × UnsteadyStore :=
  (attempt.operation.plan attempt.settings).run.attempt attempt.outages store

/-- What lies outside the allowed keys stays as it is, and no version goes down. -/
structure Frame (allowed : Key → Prop) (store later : Store) : Prop where
  others : ∀ key, ¬ allowed key → later.get key = store.get key
  versions : ∀ key version, store.version? key = some version →
    ∃ number, later.version? key = some number ∧ version ≤ number

namespace Frame

variable {allowed : Key → Prop} {store middle later : Store}

theorem refl : Frame allowed store store :=
  ⟨fun _ _ => rfl, fun _ version present => ⟨version, present, Nat.le_refl version⟩⟩

theorem trans (first : Frame allowed store middle) (second : Frame allowed middle later) :
    Frame allowed store later := by
  refine ⟨fun key outside => (second.others key outside).trans (first.others key outside), ?_⟩
  intro key version present
  obtain ⟨number, kept, grown⟩ := first.versions key version present
  obtain ⟨last, found, more⟩ := second.versions key number kept
  exact ⟨last, found, Nat.le_trans grown more⟩

theorem write {write : Write} (permitted : allowed write.key) :
    Frame allowed store (store.write write) := by
  constructor
  · intro key outside
    have different : write.key ≠ key := by
      intro same
      exact outside (same ▸ permitted)
    simp only [Store.write, Store.get_put, different, if_false]
  · intro key version present
    by_cases same : write.key = key
    · subst same
      refine ⟨version + 1, ?_, Nat.le_succ version⟩
      simp only [Store.write, Store.version?_put_same, present, Option.getD_some]
    · exact ⟨version, by rw [Store.write, Store.version?_put_other same, present],
        Nat.le_refl version⟩

end Frame

def Verdict.writes : Verdict → List Write
  | refuse _ | idle => []
  | one write => [write]
  | both first undo second => [first, undo, second]

namespace Change

variable {settings : Settings} {store : Store} {operation : Operation} {verdict : Verdict}

theorem targeted (change : Change settings store operation verdict) :
    ∀ write ∈ verdict.writes, operation.Targets write.key := by
  cases change <;>
    simp [Verdict.writes, Write.key, Operation.Targets, Operation.scope, Operation.stream?]

variable {first undo second : Write}

theorem restores (change : Change settings store operation (.both first undo second)) :
    undo.key = first.key ∧ store.value? undo.key = some undo.record := by
  cases change with
  | createStream listing active free => exact ⟨rfl, Store.value?_of_scope? listing⟩
  | deleteListed found closed listing listed => exact ⟨rfl, Store.value?_of_stream? found⟩

theorem value?_restored (change : Change settings store operation (.both first undo second))
    (key : Key) : ((store.write first).write undo).value? key = store.value? key := by
  obtain ⟨same, previous⟩ := change.restores
  by_cases here : undo.key = key
  · subst here
    simp [Store.write, Store.value?_put, previous]
  · have there : first.key ≠ key := same ▸ here
    simp [Store.write, Store.value?_put, here, there]

theorem rollBackLost (change : Change settings store operation (.both first undo second)) :
    operation.RollBackLost [second.key, undo.key] := by
  cases change <;> rfl

end Change

theorem Operation.RollBackLost.two {operation : Operation} {lost : List Key}
    (both : operation.RollBackLost lost) : lost.length = 2 := by
  cases operation <;> simp_all [RollBackLost]

/-- What is left behind when the write that was to take the first one back was lost too: the name of
    the stream among the members of its scope, or the stream marked as deleted. -/
def Operation.LeftHalfDone (store later : Store) : Operation → Prop
  | .createStream stream _ =>
    (∃ parent, store.value? (.scope stream.scope) = some (.scope parent) ∧
      later.value? (.scope stream.scope) =
        some (.scope ⟨parent.state, parent.members.insert stream.name⟩)) ∧
    ∀ key, key ≠ .scope stream.scope → later.value? key = store.value? key
  | .deleteStream stream =>
    (∃ record, store.value? (.stream stream) = some (.stream record) ∧
      later.value? (.stream stream) = some (.stream { record with state := .deleted })) ∧
    ∀ key, key ≠ .stream stream → later.value? key = store.value? key
  | _ => False

theorem Change.leftHalfDone {settings : Settings} {store : Store} {operation : Operation}
    {first undo second : Write}
    (change : Change settings store operation (.both first undo second)) :
    operation.LeftHalfDone store (store.write first) := by
  cases change with
  | createStream listing active free =>
    refine ⟨⟨_, Store.value?_of_scope? listing, ?_⟩, ?_⟩
    · simp [Store.write, Store.value?_put, Write.key, Write.record, ScopeRecord.enroll]
    · intro key different
      simp [Store.write, Store.value?_put, Write.key, different.symm]
  | deleteListed found closed listing listed =>
    refine ⟨⟨_, Store.value?_of_stream? found, ?_⟩, ?_⟩
    · simp [Store.write, Store.value?_put, Write.key, Write.record, StreamRecord.movedTo]
    · intro key different
      simp [Store.write, Store.value?_put, Write.key, different.symm]

namespace Verdict

variable {settings : Settings} {store : Store} {operation : Operation} {verdict : Verdict}

theorem Justified.targeted (justified : Justified settings store operation verdict) :
    ∀ write ∈ verdict.writes, operation.Targets write.key := by
  rcases justified with ⟨error, rfl⟩ | rfl | change
  · simp [writes]
  · simp [writes]
  · exact change.targeted

theorem Justified.both {first undo second : Write}
    (justified : Justified settings store operation (.both first undo second)) :
    Change settings store operation (.both first undo second) := by
  rcases justified with ⟨error, same⟩ | same | change
  · cases same
  · cases same
  · exact change

theorem apply_frame {allowed : Key → Prop}
    (permitted : ∀ write ∈ verdict.writes, allowed write.key) :
    Frame allowed store (verdict.apply store) := by
  cases verdict with
  | refuse error => exact .refl
  | idle => exact .refl
  | one write => exact .write (permitted write (by simp [writes]))
  | both first undo second =>
    exact (Frame.write (permitted first (by simp [writes]))).trans
      (Frame.write (permitted second (by simp [writes])))

theorem apply_of_result (refused : verdict.result ≠ .ok true) : verdict.apply store = store := by
  cases verdict with
  | refuse error => rfl
  | idle => rfl
  | one write => exact absurd rfl refused
  | both first undo second => exact absurd rfl refused

end Verdict

theorem Change.result {settings : Settings} {store : Store} {operation : Operation}
    {verdict : Verdict} (change : Change settings store operation verdict) :
    verdict.result = .ok true := by
  cases change <;> rfl

/-- What an attempt comes to for the records without their versions: they stay, or the change is
    made, or its first write stands alone. -/
inductive Attempt.Effect (attempt : Attempt) (store : Store) :
    Except Error Bool × UnsteadyStore → Prop where
  | kept {ended : Except Error Bool × UnsteadyStore} (quiet : ended.1 ≠ .ok true)
      (restored : ¬ attempt.operation.RollBackLost ended.2.lostWrites)
      (same : ∀ key, ended.2.store.value? key = store.value? key) :
    Effect attempt store ended
  | changed {verdict : Verdict}
      (change : Change attempt.settings store attempt.operation verdict) (calls : Nat) :
    Effect attempt store (.ok true, ⟨verdict.apply store, calls, []⟩)
  | half {first undo second : Write} {text : String}
      (change : Change attempt.settings store attempt.operation (.both first undo second))
      (calls : Nat) :
    Effect attempt store (.error (.store (.unavailable text)),
      ⟨store.write first, calls, [second.key, undo.key]⟩)

namespace Attempt

variable (attempt : Attempt) (store : Store)

theorem run_of_fault {error : Error}
    (fault : attempt.operation.check attempt.settings = .error error) :
    (attempt.run store).1 = .error error := by
  unfold run Operation.plan
  rw [fault]
  rfl

theorem outcome : Outcome attempt.outages store
    (attempt.operation.verdict attempt.settings store) (attempt.run store) :=
  Operation.plan_outcome attempt.settings attempt.operation attempt.outages store

theorem justified : Verdict.Justified attempt.settings store attempt.operation
    (attempt.operation.verdict attempt.settings store) :=
  Operation.verdict_justified attempt.settings store attempt.operation

theorem frame : Frame attempt.operation.Targets store (attempt.run store).2.store := by
  have targeted := (attempt.justified store).targeted
  have outcome := attempt.outcome store
  generalize attempt.run store = ended at outcome
  cases outcome with
  | done calls => exact Verdict.apply_frame targeted
  | lost failed calls keys few => exact .refl
  | undone failed two calls =>
    rw [two] at targeted
    exact (Frame.write (targeted _ (by simp [Verdict.writes]))).trans
      (Frame.write (targeted _ (by simp [Verdict.writes])))
  | stranded failed two calls =>
    rw [two] at targeted
    exact Frame.write (targeted _ (by simp [Verdict.writes]))

/-- An attempt that ends with a `false`, a fault in its input or a rejection has done nothing. -/
theorem store_of_refused (refused : (attempt.run store).1 ≠ .ok true)
    (reached : ∀ failure, (attempt.run store).1 ≠ .error (.store failure)) :
    (attempt.run store).2.store = store := by
  have outcome := attempt.outcome store
  generalize attempt.run store = ended at outcome refused reached
  cases outcome with
  | done calls => exact Verdict.apply_of_result refused
  | lost failed calls keys few => exact absurd rfl (reached _)
  | undone failed two calls => exact absurd rfl (reached _)
  | stranded failed two calls => exact absurd rfl (reached _)

theorem effect : Effect attempt store (attempt.run store) := by
  have justified := attempt.justified store
  have outcome := attempt.outcome store
  generalize attempt.run store = ended at outcome
  cases outcome with
  | done calls =>
    rcases justified with ⟨error, refused⟩ | idle | change
    · rw [refused]
      exact .kept nofun (fun both => nomatch both.two) fun key => rfl
    · rw [idle]
      exact .kept nofun (fun both => nomatch both.two) fun key => rfl
    · rw [change.result]
      exact .changed change calls
  | lost failed calls keys few =>
    refine .kept nofun (fun both => ?_) fun key => rfl
    have length : keys.length = 2 := both.two
    omega
  | undone failed two calls =>
    rw [two] at justified
    exact .kept nofun (fun both => nomatch both.two) justified.both.value?_restored
  | stranded failed two calls =>
    rw [two] at justified
    exact .half justified.both calls

theorem value?_of_failed {failure : StoreFailure}
    (failed : (attempt.run store).1 = .error (.store failure))
    (restored : ¬ attempt.operation.RollBackLost (attempt.run store).2.lostWrites) (key : Key) :
    (attempt.run store).2.store.value? key = store.value? key := by
  have effect := attempt.effect store
  generalize attempt.run store = ended at effect failed restored
  cases effect with
  | kept quiet _ same => exact same key
  | changed change calls => cases failed
  | half change calls => exact absurd change.rollBackLost restored

theorem leftHalfDone_of_rollBackLost
    (both : attempt.operation.RollBackLost (attempt.run store).2.lostWrites) :
    attempt.operation.LeftHalfDone store (attempt.run store).2.store := by
  have effect := attempt.effect store
  generalize attempt.run store = ended at effect both
  cases effect with
  | kept quiet restored same => exact absurd both restored
  | changed change calls => cases both.two
  | half change calls => exact change.leftHalfDone

/-- What an attempt leaves behind. If it answers `false`, finds a fault in its input or is rejected,
    the store is as it was. If the store fails, every record is as it was, but for the one that the
    lost roll-back was to restore. Only the records that the operation is about may change, and no
    version goes down. -/
theorem run_effect :
    ((attempt.run store).1 = .ok false ∨
        (∃ error, (attempt.run store).1 = .error error ∧ ∀ failure, error ≠ .store failure) →
      (attempt.run store).2.store = store) ∧
    (∀ failure, (attempt.run store).1 = .error (.store failure) →
      if attempt.operation.RollBackLost (attempt.run store).2.lostWrites then
        attempt.operation.LeftHalfDone store (attempt.run store).2.store
      else ∀ key, (attempt.run store).2.store.value? key = store.value? key) ∧
    (∀ key, ¬ attempt.operation.Targets key → (attempt.run store).2.store.get key = store.get key) ∧
    (∀ key version, store.version? key = some version →
      ∃ number, (attempt.run store).2.store.version? key = some number ∧ version ≤ number) := by
  refine ⟨?_, ?_, (attempt.frame store).others, (attempt.frame store).versions⟩
  · rintro (unchanged | ⟨error, refused, reached⟩)
    · exact attempt.store_of_refused store (by simp [unchanged]) (by simp [unchanged])
    · exact attempt.store_of_refused store (by simp [refused]) (by simpa [refused] using reached)
  · intro failure failed
    split
    · rename_i both
      exact attempt.leftHalfDone_of_rollBackLost store both
    · rename_i restored
      exact attempt.value?_of_failed store failed restored

def oneScope : Store := Store.empty.put (.scope "s") (.scope .fresh)

def brokenCreation : Attempt :=
  ⟨{}, .createStream ⟨"s", "a"⟩ {}, fun call => if call < 3 then none else some "down"⟩

theorem run_effect_lost_roll_back :
    (brokenCreation.run oneScope).1 = .error (.store (.unavailable "down")) ∧
      brokenCreation.operation.RollBackLost (brokenCreation.run oneScope).2.lostWrites ∧
      brokenCreation.operation.LeftHalfDone oneScope (brokenCreation.run oneScope).2.store := by
  have failed : (brokenCreation.run oneScope).1 = .error (.store (.unavailable "down")) := by rfl
  have both : brokenCreation.operation.RollBackLost (brokenCreation.run oneScope).2.lostWrites := by
    decide
  have left := (run_effect brokenCreation oneScope).2.1 _ failed
  rw [if_pos both] at left
  exact ⟨failed, both, left⟩

end Attempt

end StreamCatalog
