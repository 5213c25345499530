import StreamCatalog.Proofs.Teardown
import StreamCatalog.Proofs.WalkedEvents

namespace StreamCatalog

theorem ScopeRecord.dismiss_enroll {record : ScopeRecord} {name : String}
    (unlisted : name ∉ record.members) : (record.enroll name).dismiss name = record := by
  have members : ((record.enroll name).dismiss name).members = record.members := by
    apply Std.ExtTreeSet.ext_mem
    intro other
    rw [mem_dismiss, mem_enroll]
    constructor
    · rintro ⟨different, same | listed⟩
      · exact absurd same different
      · exact listed
    · intro listed
      exact ⟨fun same => unlisted (same ▸ listed), .inr listed⟩
  exact congrArg (ScopeRecord.mk record.state) members

theorem Store.scope?_write_scope_eq (store : Store) (name : String) (record : ScopeRecord) :
    (store.write (.scope name record)).scope? =
      Function.update store.scope? name (some record) := by
  funext other
  rw [scope?_write_scope]
  by_cases here : name = other
  · rw [if_pos here, here, Function.update_self]
  · rw [if_neg here, Function.update_of_ne (Ne.symm here)]

theorem Store.stream?_write_scope_eq (store : Store) (name : String) (record : ScopeRecord) :
    (store.write (.scope name record)).stream? = store.stream? := by
  funext stream
  rw [stream?_write_scope]

theorem Store.scope?_write_stream_eq (store : Store) (stream : StreamId) (record : StreamRecord) :
    (store.write (.stream stream record)).scope? = store.scope? := by
  funext name
  rw [scope?_write_stream]

theorem Store.stream?_write_stream_eq (store : Store) (stream : StreamId)
    (record : StreamRecord) :
    (store.write (.stream stream record)).stream? =
      Function.update store.stream? stream (some record) := by
  funext other
  rw [stream?_write_stream]
  by_cases here : stream = other
  · rw [if_pos here, here, Function.update_self]
  · rw [if_neg here, Function.update_of_ne (Ne.symm here)]

theorem StreamConfig.check_fixed {segments : Nat} (some : 0 < segments) :
    (fixed segments).check = .ok () := by
  have scaling : (Scaling.fixed segments).check = .ok () := if_neg (Nat.ne_of_gt some)
  have whole : (fixed segments).check = (do (Scaling.fixed segments).check; .ok ()) := rfl
  rw [whole, scaling]
  rfl

namespace Walkthrough

structure Named (stream : StreamId) : Prop where
  scope : Fits 255 stream.scope
  name : Fits 255 stream.name

/-- The catalogue in the course of a stream's life. The rest is as it was `before`. -/
structure Amid (before : Store) (path : DataPath) (stream : StreamId) (parent : ScopeRecord)
    (current : Option StreamRecord) (catalog : Catalog) : Prop where
  named : Named stream
  filed : catalog.store.Filed
  scopes : catalog.store.scope? = Function.update before.scope? stream.scope (some parent)
  streams : catalog.store.stream? = Function.update before.stream? stream current
  path : catalog.path = path

namespace Amid

variable {before : Store} {path : DataPath} {stream : StreamId} {parent : ScopeRecord}
  {current : Option StreamRecord} {record : StreamRecord} {catalog : Catalog}

theorem scope_eq (amid : Amid before path stream parent current catalog) :
    catalog.store.scope? stream.scope = some parent := by
  rw [amid.scopes, Function.update_self]

theorem stream_eq (amid : Amid before path stream parent current catalog) :
    catalog.store.stream? stream = current := by
  rw [amid.streams, Function.update_self]

theorem onScope (amid : Amid before path stream parent current catalog)
    (judge : Option ScopeRecord → Verdict) :
    Verdict.onScope catalog.store stream.scope judge = judge (some parent) := by
  rw [Verdict.onScope_filed amid.filed, amid.scope_eq]

theorem onStream (amid : Amid before path stream parent current catalog)
    (judge : Option StreamRecord → Verdict) :
    Verdict.onStream catalog.store stream judge = judge current := by
  rw [Verdict.onStream_filed amid.filed, amid.stream_eq]

theorem writeScope (amid : Amid before path stream parent current catalog) (next : ScopeRecord) :
    Amid before path stream next current
      ⟨catalog.store.write (.scope stream.scope next), catalog.path⟩ := by
  refine ⟨amid.named, amid.filed.write _, ?_, ?_, amid.path⟩
  · rw [Store.scope?_write_scope_eq, amid.scopes, Function.update_idem]
  · rw [Store.stream?_write_scope_eq, amid.streams]

theorem writeStream (amid : Amid before path stream parent current catalog)
    (next : StreamRecord) :
    Amid before path stream parent (some next)
      ⟨catalog.store.write (.stream stream next), catalog.path⟩ := by
  refine ⟨amid.named, amid.filed.write _, ?_, ?_, amid.path⟩
  · rw [Store.scope?_write_stream_eq, amid.scopes]
  · rw [Store.stream?_write_stream_eq, amid.streams, Function.update_idem]

theorem check (amid : Amid before path stream parent current catalog) {operation : Operation}
    (about : operation.stream? = some stream)
    (configured : ∀ config, operation.config? = some config → config.check = .ok ()) :
    operation.check {} = .ok () := by
  refine Operation.check_of_fits ?_ ?_ configured
  · cases operation <;> cases about <;> exact amid.named.scope
  · intro other same
    cases about.symm.trans same
    exact amid.named.name

variable (hash : String → UInt64)

theorem withoutScope (amid : Amid before path stream parent current catalog) {scope : String}
    (fits : Fits 255 scope) (missing : before.scope? scope = none) (apart : scope ≠ stream.scope) :
    Succeeds (operate hash (Reply.isRejection .scopeNotFound)
      (.createStream ⟨scope, stream.name⟩ {})) ()
      (Amid before path stream parent current) catalog := by
  have valid : (Operation.createStream ⟨scope, stream.name⟩ {}).check {} = .ok () := by
    refine Operation.check_of_fits fits ?_ ?_
    · rintro _ ⟨⟩
      exact amid.named.name
    · rintro _ ⟨⟩
      rfl
  have nowhere : catalog.store.scope? scope = none := by
    rw [amid.scopes, Function.update_of_ne apart, missing]
  have decided : (Operation.createStream ⟨scope, stream.name⟩ {}).verdictOnValid {} catalog.store =
      .refuse (.scopeNotFound scope) := by
    rw [Operation.verdictOnValid, Verdict.onScope_filed amid.filed, nowhere]
    rfl
  exact succeeds_operate hash valid decided rfl amid

theorem creates (amid : Amid before path stream parent none catalog)
    (active : parent.state = .active) {config : StreamConfig} (sound : config.check = .ok ()) :
    Succeeds (operate hash Reply.isChange (.createStream stream config)) ()
      (Amid before path stream (parent.enroll stream.name) (some (.initial config))) catalog := by
  have valid : (Operation.createStream stream config).check {} = .ok () :=
    amid.check rfl fun _ same => Option.some.inj same ▸ sound
  have decided : (Operation.createStream stream config).verdictOnValid {} catalog.store =
      .both (.scope stream.scope (parent.enroll stream.name)) (.scope stream.scope parent)
        (.stream stream (.initial config)) := by
    obtain ⟨state, members⟩ := parent
    cases active
    rw [Operation.verdictOnValid, amid.onScope]
    exact amid.onStream _
  exact succeeds_operate hash valid decided rfl ((amid.writeScope _).writeStream _)

theorem updates (amid : Amid before path stream parent (some record) catalog)
    (active : record.state = .active) {config : StreamConfig} (sound : config.check = .ok ()) :
    Succeeds (operate hash Reply.isChange (.updateStream stream config)) ()
      (Amid before path stream parent (some (record.reconfigured config))) catalog := by
  have valid : (Operation.updateStream stream config).check {} = .ok () :=
    amid.check rfl fun _ same => Option.some.inj same ▸ sound
  have decided : (Operation.updateStream stream config).verdictOnValid {} catalog.store =
      .one (.stream stream (record.reconfigured config)) :=
    (amid.onStream _).trans (if_pos active)
  exact succeeds_operate hash valid decided rfl (amid.writeStream _)

theorem holdsScope (amid : Amid before path stream parent current catalog)
    (active : parent.state = .active) (listed : stream.name ∈ parent.members) :
    Succeeds (operate hash (Reply.isRejection .scopeNotEmpty) (.deleteScope stream.scope)) ()
      (Amid before path stream parent current) catalog := by
  have valid : (Operation.deleteScope stream.scope).check {} = .ok () :=
    Operation.check_of_fits amid.named.scope nofun nofun
  have filled : 0 < parent.members.size := by
    rw [Nat.pos_iff_ne_zero]
    intro none
    exact Std.ExtTreeSet.not_mem_empty (Std.ExtTreeSet.eq_empty_iff_size_eq_zero.mpr none ▸ listed)
  have decided : (Operation.deleteScope stream.scope).verdictOnValid {} catalog.store =
      .refuse (.scopeNotEmpty stream.scope parent.members.size) := by
    obtain ⟨state, members⟩ := parent
    cases active
    exact (amid.onScope _).trans (if_pos filled)
  exact succeeds_operate hash valid decided rfl amid

theorem holdsStream (amid : Amid before path stream parent (some record) catalog)
    (active : record.state = .active) :
    Succeeds (operate hash (Reply.isRejection .streamNotSealed) (.deleteStream stream)) ()
      (Amid before path stream parent (some record)) catalog := by
  have valid : (Operation.deleteStream stream).check {} = .ok () := amid.check rfl nofun
  have decided : (Operation.deleteStream stream).verdictOnValid {} catalog.store =
      .refuse (.streamNotSealed stream) := by
    rw [Operation.verdictOnValid, amid.onStream]
    simp only [Verdict.deleteStream, active]
  exact succeeds_operate hash valid decided rfl amid

theorem seals (amid : Amid before path stream parent (some record) catalog)
    (active : record.state = .active) :
    Succeeds (operate hash Reply.isChange (.sealStream stream)) ()
      (Amid before path stream parent (some (record.movedTo .sealed))) catalog := by
  have valid : (Operation.sealStream stream).check {} = .ok () := amid.check rfl nofun
  have decided : (Operation.sealStream stream).verdictOnValid {} catalog.store =
      .one (.stream stream (record.movedTo .sealed)) :=
    (amid.onStream _).trans (if_pos active)
  exact succeeds_operate hash valid decided rfl (amid.writeStream _)

theorem deletes (amid : Amid before path stream parent (some record) catalog)
    (closed : record.state = .sealed) (listed : stream.name ∈ parent.members) :
    Succeeds (operate hash Reply.isChange (.deleteStream stream)) ()
      (Amid before path stream (parent.dismiss stream.name) (some (record.movedTo .deleted)))
      catalog := by
  have valid : (Operation.deleteStream stream).check {} = .ok () := amid.check rfl nofun
  have decided : (Operation.deleteStream stream).verdictOnValid {} catalog.store =
      .both (.stream stream (record.movedTo .deleted)) (.stream stream record)
        (.scope stream.scope (parent.dismiss stream.name)) := by
    rw [Operation.verdictOnValid, amid.onStream]
    simp only [Verdict.deleteStream, closed]
    rw [amid.onScope]
    rcases Verdict.dismiss_cases stream record (some parent) with
      ⟨scope, same, -, both⟩ | ⟨unlisted, -⟩
    · cases same
      exact both
    · exact absurd listed (unlisted parent rfl)
  exact succeeds_operate hash valid decided rfl ((amid.writeStream _).writeScope _)

theorem refusesSeal (amid : Amid before path stream parent (some record) catalog)
    (closed : record.state ≠ .active) :
    Succeeds (operate hash Reply.isRefusal (.sealStream stream)) ()
      (Amid before path stream parent (some record)) catalog := by
  have valid : (Operation.sealStream stream).check {} = .ok () := amid.check rfl nofun
  have decided : (Operation.sealStream stream).verdictOnValid {} catalog.store =
      .refuse (.streamNotActive stream) :=
    (amid.onStream _).trans (if_neg closed)
  exact succeeds_operate hash valid decided rfl amid

theorem deletesNoMore (amid : Amid before path stream parent (some record) catalog)
    (gone : record.state = .deleted) :
    Succeeds (operate hash Reply.isNoChange (.deleteStream stream)) ()
      (Amid before path stream parent (some record)) catalog := by
  have valid : (Operation.deleteStream stream).check {} = .ok () := amid.check rfl nofun
  have decided : (Operation.deleteStream stream).verdictOnValid {} catalog.store = .idle := by
    rw [Operation.verdictOnValid, amid.onStream]
    simp only [Verdict.deleteStream, gone]
  exact succeeds_operate hash valid decided rfl amid

end Amid

/-- What a stream is that has started with this number of segments, from its first update on. -/
def widened (number : Nat) : StreamRecord := ⟨.active, .fixed (number * 2), 1, 0⟩

def lastRecord (number : Nat) : StreamRecord := ⟨.deleted, .fixed (number * 2), 2, 0⟩

def openStream (hash : String → UInt64) (stream : StreamId) (number : Nat) : Walk Unit := do
  operate hash (Reply.isRejection .scopeNotFound)
    (.createStream ⟨"nonexistentScope", stream.name⟩ {})
  operate hash Reply.isChange (.createStream stream (.fixed number))
  operate hash Reply.isChange (.updateStream stream (.fixed (number * 2)))

def closeStream (hash : String → UInt64) (stream : StreamId) (number : Nat) : Walk Unit := do
  operate hash Reply.isChange (.updateStream stream (.fixed (number * 2)))
  operate hash (Reply.isRejection .scopeNotEmpty) (.deleteScope stream.scope)
  operate hash (Reply.isRejection .streamNotSealed) (.deleteStream stream)
  operate hash Reply.isChange (.sealStream stream)
  operate hash Reply.isChange (.deleteStream stream)
  operate hash Reply.isRefusal (.sealStream stream)
  operate hash Reply.isNoChange (.deleteStream stream)

theorem walkStream_eq (hash : String → UInt64) (scope : String) (number : Nat) :
    walkStream hash scope number = (do
      openStream hash ⟨scope, toString number⟩ number
      if number % 2 = 0 then writeEvents hash ⟨scope, toString number⟩
      closeStream hash ⟨scope, toString number⟩ number) := by
  simp only [openStream, bind_assoc]
  rfl

section Life

variable (hash : String → UInt64) {before : Store} {path : DataPath} {stream : StreamId}
  {catalog : Catalog} {number : Nat} (positive : 0 < number)

include positive

theorem openStream_succeeds (amid : Amid before path stream .fresh none catalog)
    (missing : before.scope? "nonexistentScope" = none)
    (apart : "nonexistentScope" ≠ stream.scope) :
    Succeeds (openStream hash stream number) ()
      (Amid before path stream (ScopeRecord.fresh.enroll stream.name) (some (widened number)))
      catalog := by
  have fits : Fits 255 "nonexistentScope" := by rfl
  have sound : (StreamConfig.fixed number).check = .ok () := StreamConfig.check_fixed positive
  have wider : (StreamConfig.fixed (number * 2)).check = .ok () :=
    StreamConfig.check_fixed (Nat.mul_pos positive Nat.two_pos)
  apply (amid.withoutScope hash fits missing apart).bind
  intro _ amid
  apply (amid.creates hash rfl sound).bind
  intro _ amid
  exact amid.updates hash rfl wider

theorem closeStream_succeeds
    (amid : Amid before path stream (ScopeRecord.fresh.enroll stream.name) (some (widened number))
      catalog) :
    Succeeds (closeStream hash stream number) ()
      (Amid before path stream .fresh (some (lastRecord number))) catalog := by
  have wider : (StreamConfig.fixed (number * 2)).check = .ok () :=
    StreamConfig.check_fixed (Nat.mul_pos positive Nat.two_pos)
  have listed : stream.name ∈ (ScopeRecord.fresh.enroll stream.name).members :=
    (ScopeRecord.mem_enroll ..).mpr (.inl rfl)
  have dismissed : (ScopeRecord.fresh.enroll stream.name).dismiss stream.name = .fresh :=
    ScopeRecord.dismiss_enroll Std.ExtTreeSet.not_mem_empty
  apply (amid.updates hash rfl wider).bind
  intro _ amid
  apply (amid.holdsScope hash rfl listed).bind
  intro _ amid
  apply (amid.holdsStream hash rfl).bind
  intro _ amid
  apply (amid.seals hash rfl).bind
  intro _ amid
  apply (amid.deletes hash rfl listed).bind
  intro _ amid
  rw [dismissed] at amid
  apply (amid.refusesSeal hash nofun).bind
  intro _ amid
  exact amid.deletesNoMore hash rfl

end Life

/-- A stream has lived, and nothing else has changed since `before`. -/
structure Lived (hash : String → UInt64) (stream : StreamId) (number : Nat)
    (before catalog : Catalog) : Prop where
  filed : catalog.store.Filed
  scopes : catalog.store.scope? = before.store.scope?
  streams : catalog.store.stream? =
    Function.update before.store.stream? stream (some (lastRecord number))
  compact : (catalog.path.events 0).Compact
  contents : (catalog.path.events 0).contents =
    if number % 2 = 0 then
      Function.update (before.path.events 0).contents (placeOf hash stream (lastRecord number))
        (payloads eventsPerStream)
    else (before.path.events 0).contents

theorem walkStream_succeeds (hash : String → UInt64) {scope : String} {number : Nat}
    {before : Catalog} (named : Named ⟨scope, toString number⟩) (positive : 0 < number)
    (filed : before.store.Filed) (vacant : before.store.scope? scope = some .fresh)
    (new : before.store.stream? ⟨scope, toString number⟩ = none)
    (missing : before.store.scope? "nonexistentScope" = none)
    (compact : (before.path.events 0).Compact)
    (silent : (before.path.events 0).contents
      (placeOf hash ⟨scope, toString number⟩ (lastRecord number)) = #[]) :
    Succeeds (walkStream hash scope number) ()
      (Lived hash ⟨scope, toString number⟩ number before) before := by
  have apart : "nonexistentScope" ≠ scope := by
    rintro rfl
    exact nomatch missing.symm.trans vacant
  have unchanged : Function.update before.store.scope? scope (some .fresh) =
      before.store.scope? := by
    rw [← vacant, Function.update_eq_self]
  have begins : Amid before.store before.path ⟨scope, toString number⟩ .fresh none before :=
    ⟨named, filed, unchanged.symm, by rw [← new, Function.update_eq_self], rfl⟩
  rw [walkStream_eq]
  apply (openStream_succeeds hash positive begins missing apart).bind
  intro opened amid
  by_cases even : number % 2 = 0
  · rw [if_pos even]
    have kept : opened.path = before.path := amid.path
    apply (writeEvents_succeeds hash amid.filed amid.stream_eq rfl (kept ▸ compact)
      (kept ▸ silent)).bind
    intro written done
    have amid : Amid before.store written.path _ _ _ written :=
      ⟨named, done.store ▸ amid.filed, done.store ▸ amid.scopes, done.store ▸ amid.streams, rfl⟩
    apply (closeStream_succeeds hash positive amid).weaken
    intro later amid
    refine ⟨amid.filed, amid.scopes.trans unchanged, amid.streams, ?_, ?_⟩
    · rw [amid.path]
      exact done.compact
    · rw [amid.path, done.contents, if_pos even, kept]
      rfl
  · rw [if_neg even]
    apply (closeStream_succeeds hash positive amid).weaken
    intro later amid
    refine ⟨amid.filed, amid.scopes.trans unchanged, amid.streams, ?_, ?_⟩
    · rw [amid.path]
      exact compact
    · rw [amid.path, if_neg even]

end Walkthrough

end StreamCatalog
