import StreamCatalog.Proofs.Retry
import StreamCatalog.Proofs.Routing

namespace StreamCatalog

def Fits (limit : Nat) (name : String) : Prop := checkName limit name = .ok ()

theorem Fits.mono {limit wider : Nat} {name : String} (fits : Fits limit name)
    (more : limit ≤ wider) : Fits wider name := by
  unfold Fits checkName at *
  split at fits
  · cases fits
  · rename_i filled
    split at fits
    · cases fits
    · rename_i short
      have inside : ¬ wider < name.utf8ByteSize := by omega
      rwa [if_neg filled, if_neg inside]

theorem Settings.checkName_iff_fits {settings : Settings} {name : String} :
    settings.checkName name = .ok () ↔ Fits settings.maxNameLength name := by
  unfold Settings.checkName Fits
  cases StreamCatalog.checkName settings.maxNameLength name with
  | ok _ => exact iff_of_true rfl rfl
  | error fault => exact iff_of_false nofun nofun

namespace Operation

variable {settings : Settings} {operation : Operation}

theorem fits_of_check (valid : operation.check settings = .ok ()) :
    Fits settings.maxNameLength operation.scope ∧
      ∀ stream, operation.stream? = some stream → Fits settings.maxNameLength stream.name := by
  have faultless := fault?_eq_none.mpr valid
  simp only [← Settings.checkName_iff_fits, ← Settings.nameFault?_eq_none]
  cases operation <;> simp_all [fault?, scope, stream?, Option.or_eq_none_iff]

end Operation

structure ScopeRecord.WellFormed (limit : Nat) (name : String) (record : ScopeRecord) : Prop where
  name : Fits limit name
  members : ∀ member ∈ record.members, Fits limit member
  closed : record.state = .deleted → record.members = ∅

structure StreamRecord.WellFormed (limit : Nat) (stream : StreamId) (record : StreamRecord) :
    Prop where
  scope : Fits limit stream.scope
  name : Fits limit stream.name
  config : record.config.check = .ok ()

namespace Store

/-- Every record is of the kind that its key names and in order, and every stream has a scope. -/
structure WellFormed (limit : Nat) (store : Store) : Prop where
  filed : store.Filed
  scopes : ∀ name record, store.scope? name = some record → record.WellFormed limit name
  streams : ∀ stream record, store.stream? stream = some record → record.WellFormed limit stream
  housed : ∀ stream record, store.stream? stream = some record →
    ∃ parent, store.scope? stream.scope = some parent

namespace WellFormed

variable {limit : Nat} {store later : Store}

theorem empty : WellFormed limit .empty :=
  ⟨.empty, fun _ _ found => (nomatch found), fun _ _ found => (nomatch found),
    fun _ _ found => (nomatch found)⟩

theorem mono {wider : Nat} (sound : store.WellFormed limit) (more : limit ≤ wider) :
    store.WellFormed wider := by
  refine ⟨sound.filed, fun name record found => ?_, fun stream record found => ?_, sound.housed⟩
  · have scope := sound.scopes name record found
    exact ⟨scope.name.mono more, fun member listed => (scope.members member listed).mono more,
      scope.closed⟩
  · have kept := sound.streams stream record found
    exact ⟨kept.scope.mono more, kept.name.mono more, kept.config⟩

theorem congr (sound : store.WellFormed limit) (same : SameRecords store later) :
    later.WellFormed limit := by
  refine ⟨sound.filed.congr same, fun name record found => ?_, fun stream record found => ?_,
    fun stream record found => ?_⟩
  · exact sound.scopes name record (by rw [← same.scope?, found])
  · exact sound.streams stream record (by rw [← same.stream?, found])
  · rw [same.scope?]
    exact sound.housed stream record (by rw [← same.stream?, found])

theorem writeScope (sound : store.WellFormed limit) {name : String} {record : ScopeRecord}
    (formed : record.WellFormed limit name) :
    (store.write (.scope name record)).WellFormed limit := by
  refine ⟨sound.filed.write _, fun other present found => ?_, fun stream kept found => ?_,
    fun stream kept found => ?_⟩
  · rw [scope?_write_scope] at found
    split at found
    · rename_i same
      cases found
      exact same ▸ formed
    · exact sound.scopes other present found
  · rw [stream?_write_scope] at found
    exact sound.streams stream kept found
  · rw [stream?_write_scope] at found
    rw [scope?_write_scope]
    split
    · exact ⟨record, rfl⟩
    · exact sound.housed stream kept found

theorem writeStream (sound : store.WellFormed limit) {stream : StreamId} {record : StreamRecord}
    (formed : record.WellFormed limit stream)
    (housed : ∃ parent, store.scope? stream.scope = some parent) :
    (store.write (.stream stream record)).WellFormed limit := by
  refine ⟨sound.filed.write _, fun name present found => ?_, fun other kept found => ?_,
    fun other kept found => ?_⟩
  · rw [scope?_write_stream] at found
    exact sound.scopes name present found
  · rw [stream?_write_stream] at found
    split at found
    · rename_i same
      cases found
      exact same ▸ formed
    · exact sound.streams other kept found
  · rw [stream?_write_stream] at found
    rw [scope?_write_stream]
    split at found
    · rename_i same
      exact same ▸ housed
    · exact sound.housed other kept found

theorem replace (sound : store.WellFormed limit) {stream : StreamId} {record : StreamRecord}
    (found : store.stream? stream = some record) (next : StreamRecord)
    (config : next.config.check = .ok ()) :
    (store.write (.stream stream next)).WellFormed limit := by
  have stood := sound.streams stream record found
  exact sound.writeStream ⟨stood.scope, stood.name, config⟩ (sound.housed stream record found)

theorem enroll (sound : store.WellFormed limit) {scope name : String} {parent : ScopeRecord}
    (listing : store.scope? scope = some parent) (active : parent.state = .active)
    (fits : Fits limit name) :
    (store.write (.scope scope (parent.enroll name))).WellFormed limit := by
  have stood := sound.scopes scope parent listing
  refine sound.writeScope ⟨stood.name, fun member listed => ?_, fun deleted => ?_⟩
  · rcases (ScopeRecord.mem_enroll ..).mp listed with rfl | listed
    · exact fits
    · exact stood.members member listed
  · exact nomatch active.symm.trans deleted

theorem dismiss (sound : store.WellFormed limit) {scope name : String} {parent : ScopeRecord}
    (listing : store.scope? scope = some parent) :
    (store.write (.scope scope (parent.dismiss name))).WellFormed limit := by
  have stood := sound.scopes scope parent listing
  refine sound.writeScope ⟨stood.name, fun member listed => ?_, fun deleted => ?_⟩
  · exact stood.members member ((ScopeRecord.mem_dismiss ..).mp listed).2
  · have vacant : parent.members = ∅ := stood.closed deleted
    have none : (parent.dismiss name).members = parent.members.erase name := rfl
    rw [none, vacant, Std.ExtTreeSet.erase_empty]

end WellFormed

end Store

namespace Change

variable {settings : Settings} {store : Store} {operation : Operation} {verdict : Verdict}
  {limit : Nat}

theorem wellFormed_first {first undo second : Write}
    (change : Change settings store operation (.both first undo second))
    (valid : operation.check settings = .ok ()) (wide : settings.maxNameLength ≤ limit)
    (sound : store.WellFormed limit) : (store.write first).WellFormed limit := by
  obtain ⟨-, named⟩ := Operation.fits_of_check valid
  cases change with
  | createStream listing active free =>
    exact sound.enroll listing active ((named _ rfl).mono wide)
  | deleteListed found closed listing listed =>
    exact sound.replace found _ (sound.streams _ _ found).config

theorem wellFormed (change : Change settings store operation verdict)
    (valid : operation.check settings = .ok ()) (wide : settings.maxNameLength ≤ limit)
    (sound : store.WellFormed limit) : (verdict.apply store).WellFormed limit := by
  obtain ⟨placed, named⟩ := Operation.fits_of_check valid
  cases change with
  | createScope vacant =>
    exact sound.writeScope ⟨placed.mono wide,
      fun member listed => absurd listed Std.ExtTreeSet.not_mem_empty, nofun⟩
  | deleteScope found =>
    exact sound.writeScope ⟨placed.mono wide,
      fun member listed => absurd listed Std.ExtTreeSet.not_mem_empty, fun _ => rfl⟩
  | @createStream stream config parent listing active free =>
    have enrolled := sound.enroll listing active ((named stream rfl).mono wide)
    have config_valid := Operation.config_of_check valid rfl
    refine enrolled.writeStream ⟨placed.mono wide, (named stream rfl).mono wide, ?_⟩
      ⟨_, (store.scope?_write_scope ..).trans (if_pos rfl)⟩
    cases store.stream? stream <;> exact config_valid
  | updateStream found active => exact sound.replace found _ (Operation.config_of_check valid rfl)
  | sealStream found active => exact sound.replace found _ (sound.streams _ _ found).config
  | deleteUnlisted found closed unlisted =>
    exact sound.replace found _ (sound.streams _ _ found).config
  | @deleteListed stream record parent found closed listing listed =>
    have marked := sound.replace found (record.movedTo .deleted) (sound.streams _ _ found).config
    exact marked.dismiss ((store.scope?_write_stream ..).trans listing)

end Change

/-- An attempt leaves the records in order if names may be as long as its settings allow. -/
theorem Attempt.wellFormed (attempt : Attempt) {store : Store} {limit : Nat}
    (wide : attempt.settings.maxNameLength ≤ limit) (sound : store.WellFormed limit) :
    (attempt.after store).WellFormed limit := by
  cases checked : attempt.operation.check attempt.settings with
  | error error =>
    have untouched : attempt.after store = store := attempt.after_of_fault store checked
    rwa [untouched]
  | ok valid =>
    exact Attempt.keeps (fun _ same => sound.congr same)
      (fun _ change => change.wellFormed checked wide sound)
      (fun _ _ _ change => change.wellFormed_first checked wide sound)

end StreamCatalog
