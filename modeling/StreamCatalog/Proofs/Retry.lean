import StreamCatalog.Proofs.MemberIndex
import StreamCatalog.Proofs.Reference

namespace StreamCatalog

namespace ScopeRecord

theorem enroll_enroll (record : ScopeRecord) (name : String) :
    (record.enroll name).enroll name = record.enroll name := by
  have members : ((record.enroll name).enroll name).members = (record.enroll name).members := by
    apply Std.ExtTreeSet.ext_mem
    intro other
    simp only [mem_enroll, or_self_left]
  exact congrArg (ScopeRecord.mk record.state) members

end ScopeRecord

namespace Operation

variable {settings : Settings} {store : Store} {operation : Operation}

theorem verdict_of_valid (valid : operation.check settings = .ok ()) :
    operation.verdict settings store = operation.verdictOnValid settings store := by
  rw [verdict, valid]

theorem check_of_verdict {first undo second : Write}
    (both : operation.verdict settings store = .both first undo second) :
    operation.check settings = .ok () := by
  unfold verdict at both
  split at both
  · cases both
  · assumption

theorem check_ne_store {failure : StoreFailure} (operation : Operation) :
    operation.check settings ≠ .error (.store failure) := by
  have names (name : String) : settings.nameFault? name ≠ some (.store failure) := by
    intro wrong
    obtain ⟨fault, same⟩ := Settings.nameFault?_eq_some wrong
    cases same
  have configs (config : StreamConfig) : config.fault? ≠ some (.store failure) := by
    intro wrong
    obtain ⟨fault, same⟩ := StreamConfig.fault?_eq_some wrong
    cases same
  have faultless : operation.fault? settings ≠ some (.store failure) := by
    cases operation <;> simp [fault?, Option.or_eq_some_iff, names, configs]
  intro failed
  rw [check_eq] at failed
  cases fault : operation.fault? settings with
  | none => simp [fault] at failed
  | some error =>
    simp only [fault, Except.error.injEq] at failed
    exact faultless (failed ▸ fault)

theorem checkName_of_check (valid : operation.check settings = .ok ()) :
    settings.checkName operation.scope = .ok () := by
  unfold check at valid
  cases checked : settings.checkName operation.scope with
  | ok _ => rfl
  | error error =>
    rw [checked] at valid
    cases valid

end Operation

namespace Verdict

theorem enroll_again {nameReuse : Bool} {stream : StreamId} {config : StreamConfig}
    {parent : ScopeRecord} {previous : Option StreamRecord} {first undo second : Write}
    (both : enroll nameReuse stream config parent previous = .both first undo second) :
    enroll nameReuse stream config (parent.enroll stream.name) previous =
      .both first first second := by
  unfold enroll at both ⊢
  split at both
  · rename_i free
    cases both
    rw [if_pos free, ScopeRecord.enroll_enroll]
  · cases both

end Verdict

namespace Change

variable {settings : Settings} {store : Store}

/-- A name that a lost creation left on the list does not stand in the way of the next. -/
theorem verdict_of_enrolled {stream : StreamId} {config : StreamConfig} {first undo second : Write}
    (change : Change settings store (.createStream stream config) (.both first undo second))
    (both : (Operation.createStream stream config).verdict settings store =
      .both first undo second) :
    (Operation.createStream stream config).verdict settings (store.write first) =
      .both first first second := by
  have valid := Operation.check_of_verdict both
  rw [Operation.verdict_of_valid valid] at both ⊢
  simp only [Operation.verdictOnValid, Verdict.onScope_eq] at both ⊢
  cases change with
  | @createStream _ _ parent listing active free =>
    obtain ⟨state, members⟩ := parent
    cases active
    have enrolled : (store.write (.scope stream.scope
        (ScopeRecord.enroll ⟨.active, members⟩ stream.name))).value? (.scope stream.scope) =
        some (.scope ⟨.active, members.insert stream.name⟩) := by
      simp [Store.write, Store.value?_put, Write.key, Write.record, ScopeRecord.enroll]
    have untouched : (store.write (.scope stream.scope
        (ScopeRecord.enroll ⟨.active, members⟩ stream.name))).value? (.stream stream) =
        store.value? (.stream stream) := by
      simp [Store.write, Store.value?_put, Write.key]
    rw [Store.value?_of_scope? listing] at both
    rw [enrolled]
    simp only [Verdict.createStream, Verdict.onStream_eq] at both ⊢
    rw [untouched]
    split at both
    · exact Verdict.enroll_again both
    · exact Verdict.enroll_again both
    · cases both

/-- A stream that is marked deleted is not deleted again, be its name on the list or not. -/
theorem verdict_of_marked {stream : StreamId} {first undo second : Write}
    (change : Change settings store (.deleteStream stream) (.both first undo second))
    (both : (Operation.deleteStream stream).verdict settings store = .both first undo second) :
    (Operation.deleteStream stream).verdict settings (store.write first) = .idle := by
  have valid := Operation.check_of_verdict both
  rw [Operation.verdict_of_valid valid]
  simp only [Operation.verdictOnValid, Verdict.onStream_eq]
  cases change with
  | @deleteListed _ record parent found closed listing listed =>
    have marked : (store.write (.stream stream (record.movedTo .deleted))).value?
        (.stream stream) = some (.stream (record.movedTo .deleted)) := by
      simp [Store.write, Store.value?_put, Write.key, Write.record]
    rw [marked]
    rfl

end Change

namespace Attempt

def again (attempt : Attempt) : Attempt := steady attempt.settings attempt.operation

/-- Whether a deletion lost the write to its scope's list and then its roll-back. -/
def StrandsDeletion (attempt : Attempt) (store : Store) : Prop :=
  ∃ stream, attempt.operation = .deleteStream stream ∧
    (attempt.run store).2.lostWrites = [.scope stream.scope, .stream stream]

/-- Whether the operation, tried again, comes to the same on both stores. -/
def SameAgain (attempt : Attempt) (store later : Store) : Prop :=
  (attempt.again.run later).1 = (attempt.again.run store).1 ∧
    (attempt.again.after store).SameRecords (attempt.again.after later)

variable {attempt : Attempt} {store later : Store}

theorem run_steady (settings : Settings) (operation : Operation) (store : Store) :
    ((steady settings operation).run store).1 = (operation.verdict settings store).result ∧
      (steady settings operation).after store = (operation.verdict settings store).apply store :=
  ((steady settings operation).outcome store).of_steady

theorem SameAgain.of_sameRecords (same : store.SameRecords later) :
    attempt.SameAgain store later := by
  obtain ⟨result, after⟩ := run_steady attempt.settings attempt.operation store
  obtain ⟨laterResult, laterAfter⟩ := run_steady attempt.settings attempt.operation later
  unfold SameAgain again
  rw [result, laterResult, after, laterAfter, same.verdict]
  exact ⟨rfl, same.apply _⟩

theorem SameAgain.of_enrolled {stream : StreamId} {config : StreamConfig}
    {first undo second : Write} (creates : attempt.operation = .createStream stream config)
    (change : Change attempt.settings store attempt.operation (.both first undo second))
    (both : attempt.operation.verdict attempt.settings store = .both first undo second) :
    attempt.SameAgain store (store.write first) := by
  obtain ⟨result, after⟩ := run_steady attempt.settings attempt.operation store
  obtain ⟨laterResult, laterAfter⟩ :=
    run_steady attempt.settings attempt.operation (store.write first)
  have enrolled : attempt.operation.verdict attempt.settings (store.write first) =
      .both first first second := by
    rw [creates] at change both ⊢
    exact change.verdict_of_enrolled both
  unfold SameAgain again
  rw [result, laterResult, after, laterAfter, enrolled, both]
  exact ⟨rfl, (Store.SameRecords.again store first).write second⟩

theorem sameAgain_of_failed {failure : StoreFailure}
    (failed : (attempt.run store).1 = .error (.store failure))
    (whole : ¬ attempt.StrandsDeletion store) : attempt.SameAgain store (attempt.after store) := by
  have outcome := attempt.outcome store
  have justified := attempt.justified store
  unfold StrandsDeletion at whole
  unfold after
  generalize attempt.run store = ended at outcome failed whole
  cases outcome with
  | done calls =>
    have refused : (attempt.operation.verdict attempt.settings store).result ≠ .ok true :=
      fun done => nomatch failed.symm.trans done
    rw [Verdict.apply_of_result refused]
    exact .of_sameRecords fun key => rfl
  | lost _ calls keys few => exact .of_sameRecords fun key => rfl
  | undone _ two calls =>
    rw [two] at justified
    exact .of_sameRecords justified.both.value?_restored
  | stranded _ two calls =>
    rw [two] at justified
    have change := justified.both
    have both := change.rollBackLost
    -- Only two operations write twice, and of these a deletion is ruled out.
    cases asked : attempt.operation with
    | createStream stream config => exact .of_enrolled asked change two
    | deleteStream stream =>
      rw [asked] at both
      exact absurd ⟨stream, asked, both⟩ whole
    | createScope _ | deleteScope _ | updateStream _ _ | sealStream _ =>
      rw [asked] at both
      cases both

theorem StrandsDeletion.verdict (strands : attempt.StrandsDeletion store) :
    ∃ first undo second,
      attempt.operation.verdict attempt.settings store = .both first undo second ∧
      attempt.after store = store.write first := by
  obtain ⟨stream, asked, lost⟩ := strands
  have outcome := attempt.outcome store
  unfold after
  generalize attempt.run store = ended at outcome lost
  have two : ended.2.lostWrites.length = 2 := by rw [lost]; rfl
  cases outcome with
  | done calls => cases two
  | lost _ calls keys few =>
    have length : keys.length = 2 := two
    omega
  | undone _ _ calls => cases two
  | stranded _ both calls => exact ⟨_, _, _, both, rfl⟩

theorem StrandsDeletion.again (strands : attempt.StrandsDeletion store) :
    (attempt.again.run store).1 = .ok true ∧
      (attempt.again.run (attempt.after store)).1 = .ok false ∧
      attempt.again.after (attempt.after store) = attempt.after store := by
  obtain ⟨first, undo, second, both, after⟩ := strands.verdict
  obtain ⟨stream, asked, -⟩ := strands
  have change := attempt.justified store
  rw [both] at change
  have marked : attempt.operation.verdict attempt.settings (store.write first) = .idle := by
    rw [asked] at change both ⊢
    exact change.both.verdict_of_marked both
  obtain ⟨result, -⟩ := run_steady attempt.settings attempt.operation store
  obtain ⟨laterResult, laterAfter⟩ :=
    run_steady attempt.settings attempt.operation (store.write first)
  rw [both] at result
  rw [marked] at laterResult laterAfter
  rw [after]
  exact ⟨result, laterResult, laterAfter⟩

theorem check_of_failed {failure : StoreFailure}
    (failed : (attempt.run store).1 = .error (.store failure)) :
    attempt.operation.check attempt.settings = .ok () := by
  cases checked : attempt.operation.check attempt.settings with
  | ok valid => rfl
  | error error =>
    have ended := attempt.run_of_fault store checked
    have same := Except.error.inj (ended.symm.trans failed)
    rw [same] at checked
    exact absurd checked (Operation.check_ne_store attempt.operation)

end Attempt

namespace Store

variable {store : Store}

theorem verdict_of_sealed (filed : store.Filed) (listed : store.LiveListed) {settings : Settings}
    {stream : StreamId} {record : StreamRecord} (found : store.stream? stream = some record)
    (closed : record.state = .sealed)
    (valid : (Operation.deleteStream stream).check settings = .ok ()) :
    ∃ parent, store.scope? stream.scope = some parent ∧ parent.state = .active ∧
      (Operation.deleteStream stream).verdict settings store =
        .both (.stream stream (record.movedTo .deleted)) (.stream stream record)
          (.scope stream.scope (parent.dismiss stream.name)) := by
  obtain ⟨parent, listing, opened, member⟩ := listed stream record found (.inr closed)
  refine ⟨parent, listing, opened, ?_⟩
  rw [Operation.verdict_of_valid valid, Operation.verdictOnValid, Verdict.onStream_filed filed,
    found]
  simp only [Verdict.deleteStream, closed]
  rw [Verdict.onScope_filed filed, listing]
  rcases Verdict.dismiss_cases stream record (some parent) with
    ⟨scope, same, -, both⟩ | ⟨unlisted, -⟩
  · cases same
    exact both
  · exact absurd member (unlisted parent rfl)

theorem verdict_of_empty (filed : store.Filed) {settings : Settings} {name : String}
    (found : store.scope? name = some .fresh) (valid : settings.checkName name = .ok ()) :
    (Operation.deleteScope name).verdict settings store = .one (.scope name .tombstone) := by
  have checked : (Operation.deleteScope name).check settings = .ok () := by
    simp only [Operation.check, Operation.scope, valid]
    rfl
  rw [Operation.verdict_of_valid checked, Operation.verdictOnValid, Verdict.onScope_filed filed,
    found]
  rfl

end Store

namespace Run

variable {past : List Event} {store : Store}

/-- A sealed stream whose deletion failed is deleted by the next try, which takes its name off the
    list, and nothing of it keeps the scope from being deleted. -/
theorem deletion_again (run : Run .empty past store) {attempt : Attempt} {failure : StoreFailure}
    (failed : (attempt.run store).1 = .error (.store failure))
    (whole : ¬ attempt.StrandsDeletion store) {stream : StreamId} {record : StreamRecord}
    (asked : attempt.operation = .deleteStream stream)
    (found : store.stream? stream = some record) (closed : record.state = .sealed) :
    (attempt.again.run (attempt.after store)).1 = .ok true ∧
    (attempt.again.after (attempt.after store)).stream? stream = some (record.movedTo .deleted) ∧
    ∃ parent, (attempt.again.after (attempt.after store)).scope? stream.scope = some parent ∧
      stream.name ∉ parent.members ∧
      (parent.members = ∅ →
        let closing := Attempt.steady attempt.settings (.deleteScope stream.scope)
        (closing.run (attempt.again.after (attempt.after store))).1 = .ok true ∧
          (closing.after (attempt.again.after (attempt.after store))).scope? stream.scope =
            some .tombstone) := by
  obtain ⟨answer, records⟩ := Attempt.sameAgain_of_failed failed whole
  obtain ⟨result, after⟩ := Attempt.run_steady attempt.settings attempt.operation store
  have valid := Attempt.check_of_failed failed
  have filed : (attempt.again.after (attempt.after store)).Filed :=
    attempt.again.filed (attempt.filed run.filed)
  generalize attempt.again.after (attempt.after store) = last at records filed
  rw [asked] at valid result after
  obtain ⟨parent, listing, opened, both⟩ :=
    Store.verdict_of_sealed run.filed run.liveListed found closed valid
  rw [both] at result after
  have unlisted : last.scope? stream.scope = some (parent.dismiss stream.name) := by
    rw [records.scope?, Attempt.again, asked, after]
    simp [Verdict.apply]
  refine ⟨?_, ?_, parent.dismiss stream.name, unlisted, ?_, ?_⟩
  · rw [answer, Attempt.again, asked, result]
    rfl
  · rw [records.stream?, Attempt.again, asked, after]
    simp [Verdict.apply]
  · intro member
    exact ((ScopeRecord.mem_dismiss ..).mp member).1 rfl
  · intro none
    have fresh : parent.dismiss stream.name = .fresh := by
      show ScopeRecord.mk parent.state (parent.dismiss stream.name).members = .fresh
      rw [opened, none]
      rfl
    have vacant : last.scope? stream.scope = some .fresh := by rw [unlisted, fresh]
    have closing := Store.verdict_of_empty filed vacant (Operation.checkName_of_check valid)
    obtain ⟨answered, closed⟩ :=
      Attempt.run_steady attempt.settings (.deleteScope stream.scope) last
    rw [closing] at answered closed
    refine ⟨answered, ?_⟩
    rw [closed]
    simp [Verdict.apply]

/-- An operation at which the store failed can be tried again: when the store answers, it comes to
    the same as on the store before the first try. This is so for every pattern of failures but the
    one that strands a deletion. Then the next try answers `false` and changes nothing, where the
    deletion should have answered `true`. -/
theorem retry_converges (run : Run .empty past store) (attempt : Attempt) {failure : StoreFailure}
    (failed : (attempt.run store).1 = .error (.store failure)) :
    (attempt.SameAgain store (attempt.after store) ↔ ¬ attempt.StrandsDeletion store) ∧
    (attempt.StrandsDeletion store →
      (attempt.again.run store).1 = .ok true ∧
      (attempt.again.run (attempt.after store)).1 = .ok false ∧
      attempt.again.after (attempt.after store) = attempt.after store) ∧
    (¬ attempt.StrandsDeletion store → ∀ stream record,
      attempt.operation = .deleteStream stream → store.stream? stream = some record →
      record.state = .sealed →
      (attempt.again.run (attempt.after store)).1 = .ok true ∧
      (attempt.again.after (attempt.after store)).stream? stream =
        some (record.movedTo .deleted) ∧
      ∃ parent, (attempt.again.after (attempt.after store)).scope? stream.scope = some parent ∧
        stream.name ∉ parent.members ∧
        (parent.members = ∅ →
          let closing := Attempt.steady attempt.settings (.deleteScope stream.scope)
          (closing.run (attempt.again.after (attempt.after store))).1 = .ok true ∧
            (closing.after (attempt.again.after (attempt.after store))).scope? stream.scope =
              some .tombstone)) := by
  refine ⟨⟨?_, Attempt.sameAgain_of_failed failed⟩, Attempt.StrandsDeletion.again, ?_⟩
  · intro same strands
    obtain ⟨first, second, -⟩ := strands.again
    have answers := same.1
    rw [first, second] at answers
    cases answers
  · intro whole stream record asked found closed
    exact run.deletion_again failed whole asked found closed

def sealedStore : Store :=
  [.createScope "s", .createStream ⟨"s", "a"⟩ {}, .sealStream ⟨"s", "a"⟩].foldl
    (fun store operation => (Attempt.steady {} operation).after store) .empty

theorem run_sealedStore : ∃ past, Run .empty past sealedStore :=
  ⟨_, .step (.step (.step .start _) _) _⟩

def interruptedDeletion : Attempt :=
  ⟨{}, .deleteStream ⟨"s", "a"⟩, fun call => if call = 3 then some "down" else none⟩

theorem retry_converges_after_interruption :
    (interruptedDeletion.run sealedStore).1 = .error (.store (.unavailable "down")) ∧
      (interruptedDeletion.again.run (interruptedDeletion.after sealedStore)).1 = .ok true ∧
      interruptedDeletion.SameAgain sealedStore (interruptedDeletion.after sealedStore) := by
  obtain ⟨past, run⟩ := run_sealedStore
  have failed : (interruptedDeletion.run sealedStore).1 =
      .error (.store (.unavailable "down")) := by rfl
  have lost : (interruptedDeletion.run sealedStore).2.lostWrites = [.scope "s"] := by rfl
  have whole : ¬ interruptedDeletion.StrandsDeletion sealedStore := by
    rintro ⟨stream, -, both⟩
    rw [lost] at both
    simp at both
  obtain ⟨same, -, deletion⟩ := retry_converges run interruptedDeletion failed
  have again := deletion whole ⟨"s", "a"⟩ ⟨.sealed, {}, 0, 0⟩ rfl (by rfl) rfl
  exact ⟨failed, again.1, same.mpr whole⟩

def strandedDeletion : Attempt :=
  ⟨{}, .deleteStream ⟨"s", "a"⟩, fun call => if 3 ≤ call then some "down" else none⟩

theorem stranded_deletion_diverges :
    (∃ past, Run .empty past sealedStore) ∧
      (strandedDeletion.run sealedStore).1 = .error (.store (.unavailable "down")) ∧
      (strandedDeletion.again.run sealedStore).1 = .ok true ∧
      (strandedDeletion.again.run (strandedDeletion.after sealedStore)).1 = .ok false ∧
      ¬ strandedDeletion.SameAgain sealedStore (strandedDeletion.after sealedStore) ∧
      ((Attempt.steady {} (.deleteScope "s")).run
        (strandedDeletion.again.after (strandedDeletion.after sealedStore))).1 =
          .error (.scopeNotEmpty "s" 1) := by
  have first : (strandedDeletion.again.run sealedStore).1 = .ok true := by rfl
  have second : (strandedDeletion.again.run (strandedDeletion.after sealedStore)).1 =
      .ok false := by rfl
  refine ⟨run_sealedStore, by rfl, first, second, fun same => ?_, by rfl⟩
  have answers := same.1
  rw [first, second] at answers
  cases answers

end Run

end StreamCatalog
