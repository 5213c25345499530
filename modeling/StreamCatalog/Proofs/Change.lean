import StreamCatalog.Proofs.Verdict

namespace StreamCatalog

inductive Change (settings : Settings) (store : Store) : Operation → Verdict → Prop where
  | createScope {name : String}
      (vacant : ∀ record, store.scope? name = some record → record.state = .deleted) :
    Change settings store (.createScope name) (.one (.scope name .fresh))
  | deleteScope {name : String} (found : store.scope? name = some .fresh) :
    Change settings store (.deleteScope name) (.one (.scope name .tombstone))
  | createStream {stream : StreamId} {config : StreamConfig} {parent : ScopeRecord}
      (listing : store.scope? stream.scope = some parent) (active : parent.state = .active)
      (free : isFree settings.nameReuse (store.stream? stream) = true) :
    Change settings store (.createStream stream config)
      (.both (.scope stream.scope (parent.enroll stream.name)) (.scope stream.scope parent)
        (.stream stream (Lifecycle.nextIncarnation (store.stream? stream) config)))
  | updateStream {stream : StreamId} {config : StreamConfig} {record : StreamRecord}
      (found : store.stream? stream = some record) (active : record.state = .active) :
    Change settings store (.updateStream stream config)
      (.one (.stream stream (record.reconfigured config)))
  | sealStream {stream : StreamId} {record : StreamRecord}
      (found : store.stream? stream = some record) (active : record.state = .active) :
    Change settings store (.sealStream stream) (.one (.stream stream (record.movedTo .sealed)))
  | deleteUnlisted {stream : StreamId} {record : StreamRecord}
      (found : store.stream? stream = some record) (closed : record.state = .sealed)
      (unlisted : ∀ parent, store.scope? stream.scope = some parent →
        stream.name ∉ parent.members) :
    Change settings store (.deleteStream stream) (.one (.stream stream (record.movedTo .deleted)))
  | deleteListed {stream : StreamId} {record : StreamRecord} {parent : ScopeRecord}
      (found : store.stream? stream = some record) (closed : record.state = .sealed)
      (listing : store.scope? stream.scope = some parent) (listed : stream.name ∈ parent.members) :
    Change settings store (.deleteStream stream)
      (.both (.stream stream (record.movedTo .deleted)) (.stream stream record)
        (.scope stream.scope (parent.dismiss stream.name)))

namespace Verdict

/-- What a verdict has to be: a refusal, nothing, or one of the changes. -/
def Justified (settings : Settings) (store : Store) (operation : Operation) (verdict : Verdict) :
    Prop :=
  (∃ error, verdict = .refuse error) ∨ verdict = .idle ∨ Change settings store operation verdict

variable {settings : Settings} {store : Store} {operation : Operation}

theorem Justified.refuse {error : Error} : Justified settings store operation (.refuse error) :=
  .inl ⟨error, rfl⟩

theorem Justified.idle : Justified settings store operation .idle := .inr (.inl rfl)

theorem Justified.change {verdict : Verdict} (change : Change settings store operation verdict) :
    Justified settings store operation verdict := .inr (.inr change)

theorem Justified.of_onScope {name : String} {judge : Option ScopeRecord → Verdict}
    (judged : Justified settings store operation (judge (store.scope? name))) :
    Justified settings store operation (onScope store name judge) := by
  unfold onScope
  cases read : store.readScope name with
  | error failure => exact .refuse
  | ok current => rwa [Store.scope?_of_readScope read] at judged

theorem Justified.of_onStream {stream : StreamId} {judge : Option StreamRecord → Verdict}
    (judged : Justified settings store operation (judge (store.stream? stream))) :
    Justified settings store operation (onStream store stream judge) := by
  unfold onStream
  cases read : store.readStream stream with
  | error failure => exact .refuse
  | ok current => rwa [Store.stream?_of_readStream read] at judged

end Verdict

namespace Operation

open Verdict

variable (settings : Settings) (store : Store)

theorem createScope_justified (name : String) :
    Justified settings store (.createScope name)
      (Verdict.createScope name (store.scope? name)) := by
  rcases found : store.scope? name with _ | ⟨_ | _, members⟩
  · exact .change (.createScope (by simp [found]))
  · exact .idle
  · exact .change (.createScope (by simp [found]))

theorem deleteScope_justified (name : String) :
    Justified settings store (.deleteScope name)
      (Verdict.deleteScope name (store.scope? name)) := by
  rcases found : store.scope? name with _ | ⟨_ | _, members⟩
  · exact .idle
  · simp only [Verdict.deleteScope]
    split
    · exact .refuse
    · rename_i vacant
      have none : members = ∅ := Std.ExtTreeSet.eq_empty_iff_size_eq_zero.mpr (by omega)
      subst none
      exact .change (.deleteScope found)
  · exact .idle

theorem createStream_justified (stream : StreamId) (config : StreamConfig) :
    Justified settings store (.createStream stream config)
      (Verdict.createStream settings.nameReuse store stream config
        (store.scope? stream.scope)) := by
  rcases found : store.scope? stream.scope with _ | ⟨_ | _, members⟩
  · exact .refuse
  · refine .of_onStream ?_
    unfold Verdict.enroll
    split
    · rename_i free
      exact .change (.createStream found rfl free)
    · exact .idle
  · exact .refuse

theorem updateStream_justified (stream : StreamId) (config : StreamConfig) :
    Justified settings store (.updateStream stream config)
      (Verdict.ifActive stream (·.reconfigured config) (store.stream? stream)) := by
  unfold Verdict.ifActive
  split
  · split
    · exact .change (.updateStream ‹_› ‹_›)
    · exact .refuse
  · exact .refuse

theorem sealStream_justified (stream : StreamId) :
    Justified settings store (.sealStream stream)
      (Verdict.ifActive stream (·.movedTo .sealed) (store.stream? stream)) := by
  unfold Verdict.ifActive
  split
  · split
    · exact .change (.sealStream ‹_› ‹_›)
    · exact .refuse
  · exact .refuse

theorem dismiss_justified {stream : StreamId} {record : StreamRecord}
    (found : store.stream? stream = some record) (closed : record.state = .sealed) :
    Justified settings store (.deleteStream stream)
      (Verdict.dismiss stream record (store.scope? stream.scope)) := by
  rcases Verdict.dismiss_cases stream record (store.scope? stream.scope) with
    ⟨parent, listing, member, same⟩ | ⟨unlisted, same⟩
  · rw [same]
    exact .change (.deleteListed found closed listing member)
  · rw [same]
    exact .change (.deleteUnlisted found closed unlisted)

theorem deleteStream_justified (stream : StreamId) :
    Justified settings store (.deleteStream stream)
      (Verdict.deleteStream store stream (store.stream? stream)) := by
  rcases found : store.stream? stream with _ | ⟨_ | _ | _, config, epoch, generation⟩
  · exact .idle
  · exact .refuse
  · exact .of_onScope (dismiss_justified settings store found rfl)
  · exact .idle

theorem verdict_justified (operation : Operation) :
    Justified settings store operation (operation.verdict settings store) := by
  unfold verdict
  split
  · exact .refuse
  · cases operation with
    | createScope name => exact .of_onScope (createScope_justified settings store name)
    | deleteScope name => exact .of_onScope (deleteScope_justified settings store name)
    | createStream stream config =>
      exact .of_onScope (createStream_justified settings store stream config)
    | updateStream stream config =>
      exact .of_onStream (updateStream_justified settings store stream config)
    | sealStream stream => exact .of_onStream (sealStream_justified settings store stream)
    | deleteStream stream => exact .of_onStream (deleteStream_justified settings store stream)

end Operation

end StreamCatalog
