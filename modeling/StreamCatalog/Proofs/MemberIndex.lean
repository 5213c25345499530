import StreamCatalog.Proofs.Run
import StreamCatalog.Query

namespace StreamCatalog

namespace ScopeRecord

theorem mem_enroll (record : ScopeRecord) (name other : String) :
    other ∈ (record.enroll name).members ↔ name = other ∨ other ∈ record.members := by
  simp [enroll, Std.ExtTreeSet.mem_insert]

theorem mem_dismiss (record : ScopeRecord) (name other : String) :
    other ∈ (record.dismiss name).members ↔ name ≠ other ∧ other ∈ record.members := by
  simp [dismiss, Std.ExtTreeSet.mem_erase]

theorem nodup_members (record : ScopeRecord) : record.members.toList.Nodup :=
  record.members.distinct_toList.imp fun different same =>
    different (Std.LawfulEqOrd.compare_eq_iff_eq.mpr same)

end ScopeRecord

namespace Store

/-- Every live stream is a member of its scope, which is active. -/
def LiveListed (store : Store) : Prop :=
  ∀ stream record, store.stream? stream = some record → record.Live →
    ∃ parent, store.scope? stream.scope = some parent ∧ parent.state = .active ∧
      stream.name ∈ parent.members

/-- Every member of a scope is a live stream. -/
def MembersLive (store : Store) : Prop :=
  ∀ scope parent name, store.scope? scope = some parent → name ∈ parent.members →
    ∃ record, store.stream? ⟨scope, name⟩ = some record ∧ record.Live

variable {store later : Store}

theorem LiveListed.congr (listed : store.LiveListed) (same : SameRecords store later) :
    later.LiveListed := by
  intro stream record found live
  rw [same.stream?] at found
  rw [same.scope?]
  exact listed stream record found live

theorem MembersLive.congr (exact : store.MembersLive) (same : SameRecords store later) :
    later.MembersLive := by
  intro scope parent name found member
  rw [same.scope?] at found
  rw [same.stream?]
  exact exact scope parent name found member

theorem LiveListed.writeScope (listed : store.LiveListed) {name : String} {record : ScopeRecord}
    (covers : ∀ stream found, stream.scope = name → store.stream? stream = some found →
      found.Live → record.state = .active ∧ stream.name ∈ record.members) :
    (store.write (.scope name record)).LiveListed := by
  intro stream found present live
  rw [stream?_write_scope] at present
  rw [scope?_write_scope]
  by_cases here : name = stream.scope
  · rw [if_pos here]
    exact ⟨record, rfl, covers stream found here.symm present live⟩
  · rw [if_neg here]
    exact listed stream found present live

theorem LiveListed.writeStream (listed : store.LiveListed) {stream : StreamId}
    {record : StreamRecord}
    (covered : record.Live → ∃ parent, store.scope? stream.scope = some parent ∧
      parent.state = .active ∧ stream.name ∈ parent.members) :
    (store.write (.stream stream record)).LiveListed := by
  intro other found present live
  rw [stream?_write_stream] at present
  rw [scope?_write_stream]
  by_cases here : stream = other
  · rw [if_pos here] at present
    cases present
    exact here ▸ covered live
  · rw [if_neg here] at present
    exact listed other found present live

theorem LiveListed.enroll (listed : store.LiveListed) {scope : String} {parent : ScopeRecord}
    (listing : store.scope? scope = some parent) (name : String) :
    (store.write (.scope scope (parent.enroll name))).LiveListed := by
  refine listed.writeScope ?_
  intro stream found here present live
  obtain ⟨record, present_scope, opened, member⟩ := listed stream found present live
  rw [here, listing] at present_scope
  cases present_scope
  exact ⟨opened, (ScopeRecord.mem_enroll ..).mpr (.inr member)⟩

theorem LiveListed.delete (listed : store.LiveListed) (stream : StreamId) (record : StreamRecord) :
    (store.write (.stream stream (record.movedTo .deleted))).LiveListed :=
  listed.writeStream (by rintro (live | live) <;> cases live)

theorem MembersLive.writeScope (exact : store.MembersLive) {scope : String} {record : ScopeRecord}
    (covered : ∀ name ∈ record.members,
      ∃ found, store.stream? ⟨scope, name⟩ = some found ∧ found.Live) :
    (store.write (.scope scope record)).MembersLive := by
  intro other parent name found member
  rw [scope?_write_scope] at found
  rw [stream?_write_scope]
  by_cases here : scope = other
  · rw [if_pos here] at found
    cases found
    exact here ▸ covered name member
  · rw [if_neg here] at found
    exact exact other parent name found member

theorem MembersLive.writeStream (exact : store.MembersLive) {stream : StreamId}
    {record : StreamRecord} (covers : ∀ parent, store.scope? stream.scope = some parent →
      stream.name ∈ parent.members → record.Live) :
    (store.write (.stream stream record)).MembersLive := by
  intro scope parent name found member
  rw [scope?_write_stream] at found
  rw [stream?_write_stream]
  by_cases here : stream = ⟨scope, name⟩
  · subst here
    rw [if_pos rfl]
    exact ⟨record, rfl, covers parent found member⟩
  · rw [if_neg here]
    exact exact scope parent name found member

end Store

namespace Change

variable {settings : Settings} {store : Store} {operation : Operation} {verdict : Verdict}

theorem liveListed_first {first undo second : Write}
    (change : Change settings store operation (.both first undo second))
    (listed : store.LiveListed) : (store.write first).LiveListed := by
  cases change with
  | createStream listing active free => exact listed.enroll listing _
  | deleteListed found closed listing member => exact listed.delete _ _

theorem liveListed (change : Change settings store operation verdict) (listed : store.LiveListed) :
    (verdict.apply store).LiveListed := by
  cases change with
  | createScope vacant =>
    refine listed.writeScope ?_
    intro stream found here present live
    obtain ⟨parent, scope, opened, member⟩ := listed stream found present live
    rw [here] at scope
    rw [vacant parent scope] at opened
    cases opened
  | deleteScope empty =>
    refine listed.writeScope ?_
    intro stream found here present live
    obtain ⟨parent, scope, opened, member⟩ := listed stream found present live
    rw [here, empty] at scope
    cases scope
    exact absurd member Std.ExtTreeSet.not_mem_empty
  | @createStream stream config parent listing active free =>
    refine (listed.enroll listing stream.name).writeStream ?_
    intro live
    exact ⟨parent.enroll stream.name, by simp, active, (ScopeRecord.mem_enroll ..).mpr (.inl rfl)⟩
  | updateStream found active => exact listed.writeStream fun _ => listed _ _ found (.inl active)
  | sealStream found active => exact listed.writeStream fun _ => listed _ _ found (.inl active)
  | deleteUnlisted found closed unlisted => exact listed.delete _ _
  | @deleteListed stream record parent found closed listing member =>
    have first := listed.delete stream record
    refine first.writeScope ?_
    intro other found here present live
    obtain ⟨scope, present_scope, opened, listed⟩ := first other found present live
    rw [Store.scope?_write_stream, here, listing] at present_scope
    cases present_scope
    refine ⟨opened, (ScopeRecord.mem_dismiss ..).mpr ⟨?_, listed⟩⟩
    -- The name that leaves the list is that of the stream just marked deleted.
    intro same
    have target : stream = other := by
      cases stream
      cases other
      simp_all
    rw [Store.stream?_write_stream, if_pos target] at present
    cases present
    rcases live with live | live <;> cases live

theorem membersLive (change : Change settings store operation verdict) (exact : store.MembersLive) :
    (verdict.apply store).MembersLive := by
  cases change with
  | createScope vacant =>
    exact exact.writeScope fun name member => absurd member Std.ExtTreeSet.not_mem_empty
  | deleteScope empty =>
    exact exact.writeScope fun name member => absurd member Std.ExtTreeSet.not_mem_empty
  | @createStream stream config parent listing active free =>
    have live : (Lifecycle.nextIncarnation (store.stream? stream) config).Live := by
      cases store.stream? stream <;> exact .inl rfl
    -- Listing the name first would list a stream that is not there yet, so the writes are swapped.
    have written : (store.write (.stream stream (Lifecycle.nextIncarnation
        (store.stream? stream) config))).MembersLive := exact.writeStream fun _ _ _ => live
    refine (written.writeScope ?_).congr (Store.SameRecords.swap (by simp [Write.key]) store)
    intro name kept
    rw [Store.stream?_write_stream]
    by_cases here : stream = ⟨stream.scope, name⟩
    · exact ⟨_, if_pos here, live⟩
    · have member : name ∈ parent.members := by
        refine ((ScopeRecord.mem_enroll ..).mp kept).resolve_left fun same => here ?_
        rw [← same]
      rw [if_neg here]
      exact exact _ parent name listing member
  | updateStream found active => exact exact.writeStream fun _ _ _ => .inl active
  | sealStream found active => exact exact.writeStream fun _ _ _ => .inr rfl
  | deleteUnlisted found closed unlisted =>
    exact exact.writeStream fun parent listing member => absurd member (unlisted parent listing)
  | @deleteListed stream record parent found closed listing member =>
    have unlisted : (store.write (.scope stream.scope (parent.dismiss stream.name))).MembersLive :=
      exact.writeScope fun name kept =>
        exact _ parent name listing ((ScopeRecord.mem_dismiss ..).mp kept).2
    refine (unlisted.writeStream ?_).congr (Store.SameRecords.swap (by simp [Write.key]) store)
    intro scope present kept
    rw [Store.scope?_write_scope, if_pos rfl] at present
    cases present
    exact absurd rfl ((ScopeRecord.mem_dismiss ..).mp kept).1

end Change

structure Store.Indexed (store : Store) : Prop where
  filed : store.Filed
  listed : store.LiveListed
  exact : store.MembersLive

namespace Store.Indexed

variable {store : Store}

theorem empty : Indexed .empty :=
  ⟨.empty, fun _ _ found => (nomatch found), fun _ _ _ found => (nomatch found)⟩

theorem mem_members (indexed : store.Indexed) {scope : String} {parent : ScopeRecord}
    (found : store.scope? scope = some parent) (name : String) :
    name ∈ parent.members ↔ ∃ record, store.stream? ⟨scope, name⟩ = some record ∧ record.Live := by
  constructor
  · exact indexed.exact scope parent name found
  · rintro ⟨record, present, live⟩
    obtain ⟨other, listing, -, member⟩ := indexed.listed ⟨scope, name⟩ record present live
    rw [found] at listing
    cases listing
    exact member

theorem apply (indexed : store.Indexed) {settings : Settings} {operation : Operation}
    {verdict : Verdict} (justified : verdict.Justified settings store operation) :
    (verdict.apply store).Indexed := by
  rcases justified with ⟨error, rfl⟩ | rfl | change
  · exact indexed
  · exact indexed
  · exact ⟨Verdict.apply_filed indexed.filed verdict, change.liveListed indexed.listed,
      change.membersLive indexed.exact⟩

end Store.Indexed

namespace Attempt

variable (attempt : Attempt) {store : Store}

theorem liveListed (listed : store.LiveListed) : (attempt.after store).LiveListed :=
  Attempt.keeps (fun _ same => listed.congr same) (fun _ change => change.liveListed listed)
    (fun _ _ _ change => change.liveListed_first listed)

theorem membersLive (restored : ¬ (attempt.event store).RollBackLost) (exact : store.MembersLive) :
    (attempt.after store).MembersLive := by
  have effect := attempt.effect store
  unfold event Event.RollBackLost at restored
  unfold after
  generalize attempt.run store = ended at effect restored
  cases effect with
  | kept quiet _ same => exact exact.congr same
  | changed change calls => exact change.membersLive exact
  | half change calls => exact absurd change.rollBackLost restored

theorem dead_of_deleteScope {scope : String} (listed : store.LiveListed)
    (deletes : attempt.operation = .deleteScope scope) (done : (attempt.run store).1 = .ok true)
    {stream : StreamId} {record : StreamRecord} (here : stream.scope = scope)
    (found : store.stream? stream = some record) : ¬ record.Live := by
  have effect := attempt.effect store
  generalize attempt.run store = ended at effect done
  cases effect with
  | kept quiet restored same => exact absurd done quiet
  | changed change calls =>
    rw [deletes] at change
    cases change with
    | deleteScope empty =>
      intro live
      obtain ⟨parent, present, opened, member⟩ := listed stream record found live
      rw [here, empty] at present
      cases present
      exact absurd member Std.ExtTreeSet.not_mem_empty
  | half change calls => cases done

end Attempt

namespace Run

variable {past : List Event} {store : Store}

theorem liveListed (run : Run .empty past store) : store.LiveListed := by
  induction run with
  | start => exact fun stream record found => nomatch found
  | step run attempt ih => exact attempt.liveListed ih

theorem membersLive (run : Run .empty past store)
    (restored : ∀ event ∈ past, ¬ event.RollBackLost) : store.MembersLive := by
  induction run with
  | start => exact fun scope parent name found => nomatch found
  | step run attempt ih =>
    refine attempt.membersLive (restored _ List.mem_cons_self) (ih ?_)
    exact fun event member => restored event (List.mem_cons_of_mem _ member)

/-- A live stream cannot be hidden: if the list of its scope can be read, it is on the list. -/
theorem mem_listStreams {stream : StreamId} {record : StreamRecord} (listed : store.LiveListed)
    (found : store.stream? stream = some record) (live : record.Live) (outages : Outages) :
    (∃ names, ((Query.listStreams stream.scope).run.attempt outages store).1 = .ok names ∧
        stream.name ∈ names) ∨
      ∃ text, outages 0 = some text ∧
        ((Query.listStreams stream.scope).run.attempt outages store).1 =
          .error (.store (.unavailable text)) := by
  obtain ⟨⟨state, members⟩, scope, opened, member⟩ := listed stream record found live
  obtain ⟨version, read⟩ := Store.readScope_of_scope? scope
  cases opened
  simp only [Plan.attempt, Query.listStreams, run_sequence, run_fetch,
    UnsteadyStore.run_scopeRecord]
  cases outages 0 with
  | some text => exact .inr ⟨text, rfl, rfl⟩
  | none =>
    refine .inl ⟨members.toList, ?_, Std.ExtTreeSet.mem_toList.mpr member⟩
    simp only [read]
    rfl

/-- Whatever calls fail in a run, no live stream drops off the list of its scope, so that its scope
    cannot be deleted and it cannot be hidden; if no roll-back is lost, nothing else is listed. -/
theorem live_streams_are_listed (run : Run .empty past store) :
    store.LiveListed ∧
    (∀ (attempt : Attempt) (scope : String), attempt.operation = .deleteScope scope →
      (attempt.run store).1 = .ok true → ∀ stream record, stream.scope = scope →
        store.stream? stream = some record → ¬ record.Live) ∧
    (∀ stream record, store.stream? stream = some record → record.Live → ∀ outages,
      (∃ names, ((Query.listStreams stream.scope).run.attempt outages store).1 = .ok names ∧
          stream.name ∈ names) ∨
        ∃ text, outages 0 = some text ∧
          ((Query.listStreams stream.scope).run.attempt outages store).1 =
            .error (.store (.unavailable text))) ∧
    ((∀ event ∈ past, ¬ event.RollBackLost) → store.MembersLive) := by
  have listed := run.liveListed
  refine ⟨listed, ?_, ?_, run.membersLive⟩
  · intro attempt scope deletes done stream record here found
    exact attempt.dead_of_deleteScope listed deletes done here found
  · intro stream record found live outages
    exact mem_listStreams listed found live outages

def interruptedCreation : Attempt :=
  ⟨{}, .createStream ⟨"s", "a"⟩ {}, fun call => if call = 3 then some "down" else none⟩

def afterRetry : Store :=
  (Attempt.steady {} (.createStream ⟨"s", "a"⟩ {})).after
    (interruptedCreation.after ((Attempt.steady {} (.createScope "s")).after .empty))

theorem live_streams_are_listed_after_retry :
    (∃ past, Run .empty past afterRetry) ∧
      (∃ record, afterRetry.stream? ⟨"s", "a"⟩ = some record ∧ record.Live) ∧
      afterRetry.LiveListed ∧ afterRetry.MembersLive := by
  have run : Run .empty _ afterRetry := .step (.step (.step .start _) _) _
  have listed := live_streams_are_listed run
  exact ⟨⟨_, run⟩, ⟨_, by rfl, .inl rfl⟩, listed.1, listed.2.2.2 (by decide)⟩

end Run

end StreamCatalog
