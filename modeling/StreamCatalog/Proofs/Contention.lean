import StreamCatalog.Proofs.Traffic

namespace StreamCatalog

namespace Ledger

variable {caller other : Nat} {ledger : Ledger} {stream : StreamId} {write : Write}
  {pledge : Option Pledge}

theorem forall_pledges (free : ledger.pledges caller = none) {about : Pledge → Prop} :
    ∀ given, ledger.pledges caller = some given → about given := by
  simp [free]

theorem holds_write_own :
    (ledger.write caller write pledge).Holds caller stream ↔
      pledge = some ⟨stream, (ledger.store.write write).version? (.stream stream)⟩ := by
  simp [Holds, Ledger.write]

theorem holds_write_other (different : other ≠ caller) (elsewhere : write.key ≠ .stream stream) :
    (ledger.write caller write pledge).Holds other stream ↔ ledger.Holds other stream := by
  have same := Store.version?_eq_of_get (Store.get_write_other elsewhere ledger.store)
  simp [Holds, Ledger.write, different, same]

theorem hasLive_write (elsewhere : write.key ≠ .stream stream) :
    (ledger.write caller write pledge).store.HasLive stream ↔ ledger.store.HasLive stream := by
  have same := Store.stream?_eq_of_get (Store.get_write_other elsewhere ledger.store)
  simp [Store.HasLive, Ledger.write, same]

theorem Wanted.kept (wanted : ledger.Wanted stream) (elsewhere : write.key ≠ .stream stream)
    (old : ∀ given, ledger.pledges caller = some given → given.stream ≠ stream) :
    (ledger.write caller write pledge).Wanted stream := by
  rcases wanted with live | ⟨holder, holds⟩
  · exact .inl ((hasLive_write elsewhere).mpr live)
  · have different : holder ≠ caller := by
      rintro rfl
      exact old _ holds rfl
    exact .inr ⟨holder, (holds_write_other different elsewhere).mpr holds⟩

theorem Wanted.before (wanted : (ledger.write caller write pledge).Wanted stream)
    (elsewhere : write.key ≠ .stream stream) :
    ledger.Wanted stream ∨ ∃ given, pledge = some given ∧ given.stream = stream := by
  rcases wanted with live | ⟨holder, holds⟩
  · exact .inl (.inl ((hasLive_write elsewhere).mp live))
  · by_cases own : holder = caller
    · subst own
      exact .inr ⟨_, holds_write_own.mp holds, rfl⟩
    · exact .inl (.inr ⟨holder, (holds_write_other own elsewhere).mp holds⟩)

theorem wanted_write (elsewhere : write.key ≠ .stream stream)
    (old : ∀ given, ledger.pledges caller = some given → given.stream ≠ stream)
    (new : ∀ given, pledge = some given → given.stream ≠ stream) :
    (ledger.write caller write pledge).Wanted stream ↔ ledger.Wanted stream := by
  refine ⟨fun after => (after.before elsewhere).resolve_right ?_, (·.kept elsewhere old)⟩
  rintro ⟨given, pledged, about⟩
  exact new given pledged about

theorem Quiet.kept (quiet : ledger.Quiet other stream) (elsewhere : write.key ≠ .stream stream)
    (new : other ≠ caller → ∀ given, pledge = some given → given.stream ≠ stream) :
    (ledger.write caller write pledge).Quiet other stream := by
  refine ⟨fun live => quiet.dead ((hasLive_write elsewhere).mp live), fun holder apart holds => ?_⟩
  by_cases own : holder = caller
  · subst own
    exact new apart.symm _ (holds_write_own.mp holds) rfl
  · exact quiet.alone holder apart ((holds_write_other own elsewhere).mp holds)

/-- Older pledges are to older versions, so nobody else can write a stream that was just written. -/
theorem Sound.quiet_write (sound : ledger.Sound) {record : StreamRecord} (dead : ¬ record.Live) :
    (ledger.write caller (.stream stream record) pledge).Quiet caller stream := by
  constructor
  · rintro ⟨found, present, live⟩
    have same : found = record := by simpa [Ledger.write, eq_comm] using present
    exact dead (same ▸ live)
  · intro other apart holds
    have before : ledger.pledges other =
        some ⟨stream, (ledger.store.write (.stream stream record)).version? (.stream stream)⟩ := by
      simpa [Holds, Ledger.write, apart] using holds
    have bound := sound.bounded other _ before
    have grown := Store.writes_write ledger.store (.stream stream record) (.stream stream)
    rw [if_pos (by rfl)] at grown
    have late : (ledger.store.write (.stream stream record)).writes (.stream stream) ≤
        ledger.store.writes (.stream stream) := bound
    omega

theorem bounded_write (sound : ledger.Sound)
    (new : ∀ given, pledge = some given →
      given.version.getD 0 ≤ (ledger.store.write write).writes (.stream given.stream)) :
    ∀ holder given, (ledger.write caller write pledge).pledges holder = some given →
      given.version.getD 0 ≤
        (ledger.write caller write pledge).store.writes (.stream given.stream) := by
  intro holder given pledged
  by_cases own : holder = caller
  · subst own
    refine new given ?_
    simpa [Ledger.write] using pledged
  · have before : ledger.pledges holder = some given := by
      simpa [Ledger.write, own] using pledged
    have bound := sound.bounded holder given before
    have grown := Store.writes_write ledger.store write (.stream given.stream)
    show given.version.getD 0 ≤ (ledger.store.write write).writes (.stream given.stream)
    split at grown <;> omega

namespace Sound

variable (sound : ledger.Sound)

include sound

theorem writeStream {record : StreamRecord} (listed : ledger.store.Lists stream)
    (old : ∀ given, ledger.pledges caller = some given → given.stream = stream)
    (new : ∀ given, pledge = some given → given = ⟨stream,
      (ledger.store.write (.stream stream record)).version? (.stream stream)⟩)
    (still : (ledger.write caller (.stream stream record) pledge).Wanted stream) :
    (ledger.write caller (.stream stream record) pledge).Sound := by
  have others {target : StreamId} (different : stream ≠ target) :
      (ledger.write caller (.stream stream record) pledge).Wanted target ↔
        ledger.Wanted target := by
    refine wanted_write (by simpa [Write.key] using different) ?_ ?_
    · intro given pledged
      rw [old given pledged]
      exact different
    · intro given pledged
      rw [new given pledged]
      exact different
  have scopes (name : String) :
      (ledger.write caller (.stream stream record) pledge).store.scope? name =
        ledger.store.scope? name := by simp [Ledger.write]
  refine ⟨sound.filed.write _, fun target wanted => ?_, fun scope parent name found member => ?_,
    bounded_write sound fun given pledged => ?_⟩
  · have before : ledger.store.Lists target := by
      by_cases here : stream = target
      · exact here ▸ listed
      · exact sound.listed target ((others here).mp wanted)
    obtain ⟨parent, found, active, member⟩ := before
    exact ⟨parent, by rw [scopes, found], active, member⟩
  · by_cases here : stream = ⟨scope, name⟩
    · exact here ▸ still
    · rw [scopes] at found
      exact (others here).mpr (sound.wanted scope parent name found member)
  · rw [new given pledged]
    exact Nat.le_refl _

theorem writeScope {name : String} {record : ScopeRecord}
    (old : ∀ given, ledger.pledges caller = some given → given.stream.scope = name)
    (new : ∀ given, pledge = some given → given.stream.scope = name ∧
      given.version.getD 0 ≤ ledger.store.writes (.stream given.stream))
    (covers : ∀ target, target.scope = name →
      (ledger.write caller (.scope name record) pledge).Wanted target →
        record.state = .active ∧ target.name ∈ record.members)
    (covered : ∀ member ∈ record.members,
      (ledger.write caller (.scope name record) pledge).Wanted ⟨name, member⟩) :
    (ledger.write caller (.scope name record) pledge).Sound := by
  have others {target : StreamId} (different : name ≠ target.scope) :
      (ledger.write caller (.scope name record) pledge).Wanted target ↔ ledger.Wanted target := by
    refine wanted_write (by simp [Write.key]) ?_ ?_
    · rintro given pledged rfl
      exact different (old given pledged).symm
    · rintro given pledged rfl
      exact different (new given pledged).1.symm
  have scopes (other : String) :
      (ledger.write caller (.scope name record) pledge).store.scope? other =
        if name = other then some record else ledger.store.scope? other := by simp [Ledger.write]
  refine ⟨sound.filed.write _, fun target wanted => ?_, fun scope parent member found listed => ?_,
    bounded_write sound fun given pledged => ?_⟩
  · unfold Store.Lists
    rw [scopes]
    by_cases here : name = target.scope
    · rw [if_pos here]
      obtain ⟨active, member⟩ := covers target here.symm wanted
      exact ⟨record, rfl, active, member⟩
    · rw [if_neg here]
      exact sound.listed target ((others here).mp wanted)
  · rw [scopes] at found
    by_cases here : name = scope
    · rw [if_pos here] at found
      cases found
      exact here ▸ covered member listed
    · rw [if_neg here] at found
      exact (others here).mpr (sound.wanted scope parent member found listed)
  · have bound := (new given pledged).2
    have grown := Store.writes_write ledger.store (.scope name record) (.stream given.stream)
    rw [if_neg (by simp [Write.key])] at grown
    omega

end Sound

theorem holds_withdraw (stale : ∀ stream, ¬ ledger.Holds caller stream) :
    (ledger.withdraw caller).Holds other stream ↔ ledger.Holds other stream := by
  by_cases own : other = caller
  · subst own
    simp only [stale, iff_false]
    simp [Holds, withdraw]
  · simp [Holds, withdraw, own]

end Ledger

open Ledger

namespace Move

variable {caller : Nat} {ledger : Ledger}

theorem write {write : Write} {pledge : Option Pledge}
    (sound : (ledger.write caller write pledge).Sound)
    (entitled : ∀ stream, write.key = .stream stream →
      ledger.store.HasLive stream ∨ ledger.Holds caller stream)
    (new : ∀ given, pledge = some given →
      write.key = .stream given.stream ∨ write.key = .scope given.stream.scope) :
    Move caller ledger (ledger.write caller write pledge) := by
  refine ⟨sound, fun other apart =>
    ⟨sound, ?_, .write ledger.store write, fun stream quiet same => ?_⟩⟩
  · simp [Ledger.write, apart]
  · -- What the other relies on holds only as long as the scope keeps its version.
    have scope : write.key ≠ .scope stream.scope := by
      intro here
      have grown := Store.writes_write ledger.store write (.scope stream.scope)
      rw [if_pos here] at grown
      have kept : (ledger.store.write write).writes (.scope stream.scope) =
          ledger.store.writes (.scope stream.scope) := congrArg (Option.getD · 0) same
      omega
    have elsewhere : write.key ≠ .stream stream := by
      intro here
      rcases entitled stream here with live | holds
      · exact quiet.dead live
      · exact quiet.alone caller apart.symm holds
    refine ⟨quiet.kept elsewhere ?_, Store.get_write_other elsewhere ledger.store⟩
    rintro - given pledged rfl
    exact (new given pledged).elim elsewhere scope

theorem withdraw (sound : ledger.Sound) (stale : ∀ stream, ¬ ledger.Holds caller stream) :
    Move caller ledger (ledger.withdraw caller) := by
  have wanted (stream : StreamId) :
      (ledger.withdraw caller).Wanted stream ↔ ledger.Wanted stream :=
    or_congr Iff.rfl (exists_congr fun _ => holds_withdraw stale)
  have later : (ledger.withdraw caller).Sound := by
    refine ⟨sound.filed, fun stream => ?_, fun scope parent name found member => ?_, ?_⟩
    · rw [wanted]
      exact sound.listed stream
    · rw [wanted]
      exact sound.wanted scope parent name found member
    · intro holder given pledged
      by_cases own : holder = caller
      · simp [Ledger.withdraw, own] at pledged
      · exact sound.bounded holder given (by simpa [Ledger.withdraw, own] using pledged)
  refine ⟨later, fun other apart => ⟨later, ?_, fun key => .inl rfl, fun stream quiet _ => ?_⟩⟩
  · simp [Ledger.withdraw, apart]
  · exact ⟨⟨quiet.dead, fun holder different holds =>
      quiet.alone holder different ((holds_withdraw stale).mp holds)⟩, rfl⟩

theorem relist {name : String} {record : ScopeRecord} (sound : ledger.Sound)
    (free : ledger.pledges caller = none)
    (covers : ∀ stream, stream.scope = name → ledger.Wanted stream →
      record.state = .active ∧ stream.name ∈ record.members)
    (covered : ∀ member ∈ record.members, ledger.Wanted ⟨name, member⟩) :
    Move caller ledger (ledger.write caller (.scope name record) none) := by
  have wanted (stream : StreamId) :
      (ledger.write caller (.scope name record) none).Wanted stream ↔ ledger.Wanted stream :=
    wanted_write (by simp [Write.key]) (forall_pledges free) (by simp)
  have later : (ledger.write caller (.scope name record) none).Sound := by
    refine sound.writeScope (forall_pledges free) (by simp) ?_ ?_
    · intro stream here after
      exact covers stream here ((wanted stream).mp after)
    · intro member listed
      exact (wanted _).mpr (covered member listed)
  exact .write later (by simp [Write.key]) (by simp)

theorem enliven {stream : StreamId} {record : StreamRecord} (sound : ledger.Sound)
    (entitled : ledger.store.HasLive stream ∨ ledger.Holds caller stream)
    (old : ∀ given, ledger.pledges caller = some given → given.stream = stream)
    (live : record.Live) :
    Move caller ledger (ledger.write caller (.stream stream record) none) := by
  have listed : ledger.store.Lists stream :=
    sound.listed stream (entitled.imp_right fun holds => ⟨caller, holds⟩)
  have still : (ledger.write caller (.stream stream record) none).Wanted stream :=
    .inl ⟨record, by simp [Ledger.write], live⟩
  refine .write (sound.writeStream listed old (by simp) still) ?_ (by simp)
  rintro target ⟨⟩
  exact entitled

/-- A stream may be put on the list by a caller that is about to make it live. -/
theorem enlist {stream : StreamId} {parent : ScopeRecord} {version : Option Nat}
    (sound : ledger.Sound) (free : ledger.pledges caller = none)
    (found : ledger.store.scope? stream.scope = some parent) (active : parent.state = .active)
    (bound : version.getD 0 ≤ ledger.store.writes (.stream stream))
    (settled : stream.name ∉ parent.members →
      ledger.store.version? (.stream stream) = version) :
    Move caller ledger (ledger.write caller (.scope stream.scope (parent.enroll stream.name))
      (some ⟨stream, version⟩)) := by
  refine .write (sound.writeScope (forall_pledges free) ?_ ?_ ?_) (by simp [Write.key]) ?_
  · rintro given ⟨⟩
    exact ⟨rfl, bound⟩
  · intro target here after
    refine ⟨active, (ScopeRecord.mem_enroll ..).mpr ?_⟩
    rcases after.before (by simp [Write.key]) with wanted | ⟨given, own, about⟩
    · obtain ⟨other, present, -, member⟩ := sound.listed target wanted
      rw [here, found] at present
      cases present
      exact .inr member
    · cases own
      exact .inl (congrArg StreamId.name about)
  · intro name member
    by_cases listed : name ∈ parent.members
    · have wanted := sound.wanted _ _ name found listed
      exact wanted.kept (by simp [Write.key]) (forall_pledges free)
    · obtain rfl := ((ScopeRecord.mem_enroll ..).mp member).resolve_right listed
      have elsewhere : (Write.scope stream.scope (parent.enroll stream.name)).key ≠
          .stream stream := by simp [Write.key]
      have kept := Store.version?_eq_of_get (Store.get_write_other elsewhere ledger.store)
      exact .inr ⟨caller, holds_write_own.mpr (by rw [kept, settled listed])⟩
  · rintro given ⟨⟩
    exact .inr rfl

/-- A live stream may be marked deleted by a caller that will put it back if it has to. -/
theorem mark {stream : StreamId} (record : StreamRecord) {version : Nat} (sound : ledger.Sound)
    (free : ledger.pledges caller = none) (live : ledger.store.HasLive stream)
    (current : ledger.store.version? (.stream stream) = some version) :
    Move caller ledger (ledger.write caller (.stream stream record)
      (some ⟨stream, some (version + 1)⟩)) := by
  have written : (ledger.store.write (.stream stream record)).version? (.stream stream) =
      some (version + 1) := by simp [Store.write, Write.key, Write.record, current]
  refine .write (sound.writeStream (sound.listed stream (.inl live)) (forall_pledges free) ?_ ?_)
    ?_ ?_
  · rintro given ⟨⟩
    rw [written]
  · exact .inr ⟨caller, holds_write_own.mpr (by rw [written])⟩
  · rintro target ⟨⟩
    exact .inl live
  · rintro given ⟨⟩
    exact .inl rfl

/-- A stream may be taken off the list if nobody but the caller can make it live. -/
theorem dismiss {stream : StreamId} {parent : ScopeRecord} (sound : ledger.Sound)
    (found : ledger.store.scope? stream.scope = some parent)
    (old : ∀ given, ledger.pledges caller = some given → given.stream = stream)
    (quiet : ledger.Quiet caller stream) :
    Move caller ledger
      (ledger.write caller (.scope stream.scope (parent.dismiss stream.name)) none) := by
  refine .write (sound.writeScope (fun given own => by rw [old given own]) (by simp) ?_ ?_)
    (by simp [Write.key]) (by simp)
  · intro target here after
    have wanted := (after.before (by simp [Write.key])).resolve_right (by simp)
    obtain ⟨other, present, active, member⟩ := sound.listed target wanted
    rw [here, found] at present
    cases present
    refine ⟨active, (ScopeRecord.mem_dismiss ..).mpr ⟨fun same => ?_, member⟩⟩
    obtain rfl : stream = target := StreamId.ext here.symm same
    rcases after with live | ⟨holder, holds⟩
    · exact quiet.dead ((hasLive_write (by simp [Write.key])).mp live)
    · by_cases own : holder = caller
      · subst own
        cases holds_write_own.mp holds
      · exact quiet.alone holder own ((holds_write_other own (by simp [Write.key])).mp holds)
  · intro name member
    obtain ⟨different, listed⟩ := (ScopeRecord.mem_dismiss ..).mp member
    refine (sound.wanted _ _ name found listed).kept (by simp [Write.key]) fun given own same => ?_
    exact different (congrArg StreamId.name ((old given own).symm.trans same))

end Move

namespace Rely

variable {caller : Nat} {ledger later : Ledger} (rely : Rely caller ledger later)

include rely

theorem scope?_eq {name : String} {current : Option (Versioned ScopeRecord)}
    (read : ledger.store.readScope name = .ok current)
    (version : later.store.version? (.scope name) = current.map (·.version)) :
    later.store.scope? name = current.map (·.value) := by
  have same := rely.grows.get_eq (version.trans (Store.version?_of_readScope read).symm)
  rw [Store.scope?_eq_of_get same, Store.scope?_of_readScope read]

theorem stream?_eq {stream : StreamId} {current : Option (Versioned StreamRecord)}
    (read : ledger.store.readStream stream = .ok current)
    (version : later.store.version? (.stream stream) = current.map (·.version)) :
    later.store.stream? stream = current.map (·.value) := by
  have same := rely.grows.get_eq (version.trans (Store.version?_of_readStream read).symm)
  rw [Store.stream?_eq_of_get same, Store.stream?_of_readStream read]

theorem settled {last : Ledger} (more : Rely caller later last) {stream : StreamId}
    {parent : Versioned ScopeRecord} {current : Option (Versioned StreamRecord)}
    (listing : ledger.store.readScope stream.scope = .ok (some parent))
    (found : later.store.readStream stream = .ok current)
    (version : last.store.version? (.scope stream.scope) = some parent.version)
    (unlisted : stream.name ∉ parent.value.members) :
    last.store.version? (.stream stream) = current.map (·.version) ∧
      last.Quiet caller stream := by
  have before := Store.version?_of_readScope listing
  obtain ⟨early, late⟩ := rely.grows.between more.grows (version.trans before.symm)
  have seen : later.store.scope? stream.scope = some parent.value :=
    (Store.scope?_eq_of_get early).trans (Store.scope?_of_readScope listing)
  obtain ⟨quiet, kept⟩ := more.quiet stream (rely.sound.quiet seen unlisted caller)
    (Store.version?_eq_of_get late)
  exact ⟨(Store.version?_eq_of_get kept).trans (Store.version?_of_readStream found), quiet⟩

end Rely

namespace Plan.Safe

variable {caller : Nat} {ledger : Ledger}

theorem of_scopeRecord {name : String} {rest : Option (Versioned ScopeRecord) → Action Bool}
    (continued : ∀ later, Rely caller ledger later → ∀ current,
      later.store.readScope name = .ok current → (rest current).run.Safe caller later) :
    (liftM (Lookup.scopeRecord name) >>= rest).run.Safe caller ledger := by
  intro later rely
  obtain ⟨current, read, -⟩ := rely.sound.filed.readScope name
  have safe := continued later rely current read
  rw [Store.get_of_readScope read]
  cases current <;> exact safe

theorem of_streamRecord {stream : StreamId} {rest : Option (Versioned StreamRecord) → Action Bool}
    (continued : ∀ later, Rely caller ledger later → ∀ current,
      later.store.readStream stream = .ok current → (rest current).run.Safe caller later) :
    (liftM (Lookup.streamRecord stream) >>= rest).run.Safe caller ledger := by
  intro later rely
  obtain ⟨current, read, -⟩ := rely.sound.filed.readStream stream
  have safe := continued later rely current read
  rw [Store.get_of_readStream read]
  cases current <;> exact safe

theorem of_write (write : Write) {expected : Option Nat} {next : Except StoreFailure Nat → Plan α}
    (free : ledger.pledges caller = none)
    (written : ∀ later, Rely caller ledger later → later.store.version? write.key = expected →
      later.pledges caller = none → Move caller later (later.write caller write none))
    (ended : ∀ later : Ledger, later.pledges caller = none →
      ∀ reply, (next reply).Safe caller later) :
    (Plan.compareAndSet write.key expected write.record next).Safe caller ledger := by
  refine .of_compareAndSet (fun later rely current => ?_) fun later rely stale => ?_
  · have still := rely.own.trans free
    exact ⟨_, written later rely current still, rfl, ended _ (by simp [Ledger.write]) _⟩
  · exact ⟨later, .refl rely.sound, rfl, fun failure => ended later (rely.own.trans free) _⟩

/-- A pledge is redeemed if its version still stands, or else it is withdrawn. -/
theorem of_pledge {stream : StreamId} {version : Option Nat} {record : StreamRecord}
    {next : Except StoreFailure Nat → Plan α}
    (pledged : ledger.pledges caller = some ⟨stream, version⟩) (live : record.Live)
    (written : ∀ later : Ledger, later.pledges caller = none →
      (next (.ok (version.getD 0 + 1))).Safe caller later)
    (refused : ∀ later, Rely caller ledger later →
      later.store.version? (.stream stream) ≠ version →
        ∀ failure, (next (.error failure)).Safe caller (later.withdraw caller)) :
    (Plan.compareAndSet (.stream stream) version (.stream record) next).Safe caller ledger := by
  refine .of_compareAndSet (fun later rely current => ?_) fun later rely stale => ?_
  · have still := rely.own.trans pledged
    have holds : later.Holds caller stream := by rw [Holds, still, current]
    have move : Move caller later (later.write caller (.stream stream record) none) := by
      refine .enliven rely.sound (.inr holds) (fun given own => ?_) live
      cases still.symm.trans own
      rfl
    exact ⟨_, move, rfl, written _ (by simp [Ledger.write])⟩
  · have still := rely.own.trans pledged
    refine ⟨_, .withdraw rely.sound fun target holds => ?_, rfl, refused later rely stale⟩
    have same := Option.some.inj (still.symm.trans holds)
    cases same
    exact stale rfl

end Plan.Safe

theorem ScopeRecord.enroll_of_mem {record : ScopeRecord} {name : String}
    (member : name ∈ record.members) : record.enroll name = record := by
  have members : (record.enroll name).members = record.members := by
    apply Std.ExtTreeSet.ext_mem
    intro other
    rw [mem_enroll]
    refine or_iff_right_of_imp ?_
    rintro rfl
    exact member
  exact congrArg (ScopeRecord.mk record.state) members

namespace Lifecycle

variable {caller : Nat} {ledger : Ledger} (free : ledger.pledges caller = none)

include free

theorem createScope_safe (name : String) : (createScope name).run.Safe caller ledger := by
  refine .of_scopeRecord fun first early current read => ?_
  have unpledged := early.own.trans free
  have write (vacant : ∀ found ∈ current, found.value.state = .deleted) (later : Ledger)
      (late : Rely caller first later)
      (version : later.store.version? (.scope name) = current.map (·.version))
      (still : later.pledges caller = none) :
      Move caller later (later.write caller (.scope name .fresh) none) := by
    refine .relist late.sound still ?_ fun member listed =>
      absurd listed Std.ExtTreeSet.not_mem_empty
    rintro stream rfl wanted
    obtain ⟨parent, found, active, -⟩ := late.sound.listed stream wanted
    rw [late.scope?_eq read version] at found
    obtain ⟨present, here, rfl⟩ := Option.map_eq_some_iff.mp found
    exact nomatch active.symm.trans (vacant present here)
  rcases current with _ | ⟨⟨_ | _, members⟩, number⟩
  · refine .of_write (.scope name .fresh) unpledged (write nofun) fun later still reply => ?_
    cases reply <;> exact still
  · exact unpledged
  · refine .of_write (.scope name .fresh) unpledged (write ?_) fun later still reply => ?_
    · rintro found ⟨⟩
      rfl
    · cases reply <;> exact still

theorem deleteScope_safe (name : String) : (deleteScope name).run.Safe caller ledger := by
  refine .of_scopeRecord fun first early current read => ?_
  have unpledged := early.own.trans free
  rcases current with _ | ⟨⟨_ | _, members⟩, number⟩
  · exact unpledged
  · by_cases inhabited : 0 < members.size
    · simp only [Option.map_some, Option.getD_some, inhabited, decide_true, ScopeVerb.transition,
        if_true]
      exact unpledged
    · simp only [Option.map_some, Option.getD_some, inhabited, decide_false, ScopeVerb.transition,
        Bool.false_eq_true, if_false]
      refine .of_write (.scope name .tombstone) unpledged (fun later late version still => ?_)
        fun later still reply => ?_
      · have none : members = ∅ := Std.ExtTreeSet.eq_empty_iff_size_eq_zero.mpr (by omega)
        refine .relist late.sound still ?_ fun member listed =>
          absurd listed Std.ExtTreeSet.not_mem_empty
        rintro stream rfl wanted
        obtain ⟨parent, found, -, member⟩ := late.sound.listed stream wanted
        rw [late.scope?_eq read version] at found
        cases found
        rw [none] at member
        exact absurd member Std.ExtTreeSet.not_mem_empty
      · cases reply <;> exact still
  · exact unpledged

theorem revise_safe {stream : StreamId} {present : Versioned StreamRecord}
    (read : ledger.store.readStream stream = .ok (some present))
    (active : present.value.state = .active) (record : StreamRecord) (live : record.Live)
    {next : Except StoreFailure Nat → Plan α}
    (ended : ∀ later : Ledger, later.pledges caller = none →
      ∀ reply, (next reply).Safe caller later) :
    (Plan.compareAndSet (.stream stream) (some present.version) (.stream record) next).Safe caller
      ledger := by
  refine .of_write (.stream stream record) free (fun later rely version still => ?_) ended
  have found := rely.stream?_eq read version
  exact .enliven rely.sound (.inl ⟨present.value, found, .inl active⟩) (forall_pledges still) live

theorem updateStream_safe (nameReuse : Bool) (stream : StreamId) (config : StreamConfig) :
    (updateStream nameReuse stream config).run.Safe caller ledger := by
  refine .of_streamRecord fun first early current read => ?_
  have unpledged := early.own.trans free
  rcases current with _ | ⟨⟨_ | _ | _, previous, epoch, generation⟩, number⟩
  · exact unpledged
  · refine revise_safe unpledged read rfl ⟨.active, config, epoch + 1, generation⟩ (.inl rfl)
      fun later still reply => ?_
    cases reply <;> exact still
  · exact unpledged
  · exact unpledged

theorem sealStream_safe (nameReuse : Bool) (stream : StreamId) :
    (sealStream nameReuse stream).run.Safe caller ledger := by
  refine .of_streamRecord fun first early current read => ?_
  have unpledged := early.own.trans free
  rcases current with _ | ⟨⟨_ | _ | _, config, epoch, generation⟩, number⟩
  · exact unpledged
  · refine revise_safe unpledged read rfl ⟨.sealed, config, epoch, generation⟩ (.inr rfl)
      fun later still reply => ?_
    cases reply <;> exact still
  · exact unpledged
  · exact unpledged

omit free in
/-- The write that takes a new member off the list again. It goes through only if the stream was on
    the list before, for otherwise nobody else could have written the stream. -/
theorem rollBackScope_safe {stream : StreamId} {parent : Versioned ScopeRecord}
    {expected : Option Nat} {listed : Ledger} {error : Error}
    (listing : listed.store.scope? stream.scope = some (parent.value.enroll stream.name))
    (version : listed.store.version? (.scope stream.scope) = some (parent.version + 1))
    (settled : stream.name ∉ parent.value.members →
      listed.store.version? (.stream stream) = expected ∧ listed.Quiet caller stream)
    (rely : Rely caller listed ledger)
    (stale : ledger.store.version? (.stream stream) ≠ expected) :
    (do
      rollBackScope stream.scope (parent.version + 1) parent.value
      throw error : Action Bool).run.Safe caller (ledger.withdraw caller) := by
  have unpledged : (ledger.withdraw caller).pledges caller = none := by simp [Ledger.withdraw]
  refine .of_write (.scope stream.scope parent.value) unpledged (fun later more current still => ?_)
    fun later still reply => ?_
  · obtain ⟨early, late⟩ := rely.grows.between more.grows (current.trans version.symm)
    have member : stream.name ∈ parent.value.members := by
      by_contra unlisted
      obtain ⟨before, quiet⟩ := settled unlisted
      have kept := (rely.quiet stream quiet (Store.version?_eq_of_get early)).2
      exact stale ((Store.version?_eq_of_get kept).trans before)
    have found : later.store.scope? stream.scope = some parent.value := by
      rw [Store.scope?_eq_of_get (late.trans early), listing, ScopeRecord.enroll_of_mem member]
    refine .relist more.sound still ?_ (more.sound.wanted stream.scope parent.value · found)
    intro target here wanted
    obtain ⟨other, present, active, listed⟩ := more.sound.listed target wanted
    rw [here, found] at present
    cases present
    exact ⟨active, listed⟩
  · cases reply <;> exact still

theorem enroll_safe {stream : StreamId} (config : StreamConfig) {parent : Versioned ScopeRecord}
    {current : Option (Versioned StreamRecord)} {start : Ledger} (notice : Notice)
    (listing : start.store.readScope stream.scope = .ok (some parent))
    (active : parent.value.state = .active) (rely : Rely caller start ledger)
    (found : ledger.store.readStream stream = .ok current) :
    (do
      let listed ← putScope stream.scope (some parent.version) (parent.value.enroll stream.name)
      let record := nextIncarnation (current.map (·.value)) config
      match ← (putStream stream (current.map (·.version)) record).run with
      | .ok _ =>
        note notice
        return true
      | .error failure =>
        rollBackScope stream.scope listed parent.value
        throw (.store failure) : Action Bool).run.Safe caller ledger := by
  refine .of_compareAndSet (fun later more version => ?_) fun later more stale => ?_
  · have still := more.own.trans free
    have scope : later.store.scope? stream.scope = some parent.value :=
      (rely.trans more).scope?_eq listing version
    have settled := rely.settled more listing found version
    have move : Move caller later (later.write caller
        (.scope stream.scope (parent.value.enroll stream.name))
        (some ⟨stream, current.map (·.version)⟩)) := by
      refine .enlist more.sound still scope active ?_ fun unlisted => (settled unlisted).1
      rw [← Store.version?_of_readStream found]
      exact more.grows.writes_le (.stream stream)
    refine ⟨_, move, rfl, ?_⟩
    refine .of_pledge (by simp [Ledger.write]) ?_ (fun last unpledged => unpledged) ?_
    · cases current <;> exact .inl rfl
    · intro last late stale failure
      have elsewhere : (Write.scope stream.scope (parent.value.enroll stream.name)).key ≠
          .stream stream := by simp [Write.key]
      refine rollBackScope_safe ?_ ?_ (fun unlisted => ?_) late stale
      · simp [Ledger.write]
      · simp [Ledger.write, Store.write, Write.key, Write.record, version]
      · obtain ⟨before, quiet⟩ := settled unlisted
        have kept := Store.version?_eq_of_get (Store.get_write_other elsewhere later.store)
        exact ⟨kept.trans before, quiet.kept elsewhere (absurd rfl)⟩
  · exact ⟨later, .refl more.sound, rfl, fun failure => more.own.trans free⟩

theorem createStream_safe (nameReuse : Bool) (stream : StreamId) (config : StreamConfig) :
    (createStream nameReuse stream config).run.Safe caller ledger := by
  refine .of_scopeRecord fun first early parent listing => ?_
  have unpledged := early.own.trans free
  rcases parent with _ | ⟨⟨_ | _, members⟩, number⟩
  · exact unpledged
  · refine .of_streamRecord fun second late current found => ?_
    have still := late.own.trans unpledged
    rcases current with _ | ⟨⟨_ | _ | _, previous, epoch, generation⟩, last⟩
    · exact enroll_safe still config _ listing rfl late found
    · exact still
    · exact still
    · cases nameReuse
      · exact still
      · exact enroll_safe still config _ listing rfl late found
  · exact unpledged

omit free in
theorem dismissStream_safe {stream : StreamId} {parent : Versioned ScopeRecord} {version : Nat}
    {previous : StreamRecord} {seen : Ledger} (notice : Notice) (live : previous.Live)
    (pledged : ledger.pledges caller = some ⟨stream, some version⟩)
    (quiet : ledger.Quiet caller stream)
    (listing : seen.store.readScope stream.scope = .ok (some parent))
    (member : stream.name ∈ parent.value.members) (grows : seen.store.Grows ledger.store) :
    (do
      dismissStream stream (some parent) version previous
      note notice
      return true : Action Bool).run.Safe caller ledger := by
  have listed : parent.value.members.contains stream.name = true :=
    Std.ExtTreeSet.contains_iff_mem.mpr member
  simp only [dismissStream, Option.filter_some, listed, if_true, bind_assoc]
  refine .of_compareAndSet (fun later more current => ?_) fun later more stale => ?_
  · obtain ⟨early, late⟩ := grows.between more.grows
      (current.trans (Store.version?_of_readScope listing).symm)
    have found : later.store.scope? stream.scope = some parent.value :=
      (Store.scope?_eq_of_get (late.trans early)).trans (Store.scope?_of_readScope listing)
    have still := (more.quiet stream quiet (Store.version?_eq_of_get late)).1
    refine ⟨_, .dismiss more.sound found (fun given own => ?_) still, rfl, ?_⟩
    · cases (more.own.trans pledged).symm.trans own
      rfl
    · show Function.update later.pledges caller none caller = none
      simp
  · refine ⟨later, .refl more.sound, rfl, fun failure => ?_⟩
    refine .of_pledge (more.own.trans pledged) live (fun last unpledged => unpledged) ?_
    intro last late stale failure
    show Function.update last.pledges caller none caller = none
    simp

theorem deleteStream_safe (nameReuse : Bool) (stream : StreamId) :
    (deleteStream nameReuse stream).run.Safe caller ledger := by
  refine .of_streamRecord fun first early current read => ?_
  have unpledged := early.own.trans free
  rcases current with _ | ⟨⟨_ | _ | _, config, epoch, generation⟩, number⟩
  · exact unpledged
  · exact unpledged
  · refine .of_scopeRecord fun second late parent listing => ?_
    have still := late.own.trans unpledged
    refine .of_compareAndSet (fun later more version => ?_) fun later more stale => ?_
    · have before := Store.version?_of_readStream read
      obtain ⟨same, kept⟩ := late.grows.between more.grows (version.trans before.symm)
      have found := Store.stream?_of_readStream read
      have seen := (Store.stream?_eq_of_get same).trans found
      have present := (Store.stream?_eq_of_get kept).trans seen
      -- The stream was live when the list was read, so it was on it.
      obtain ⟨record, here, -, member⟩ := late.sound.listed stream (.inl ⟨_, seen, .inr rfl⟩)
      rw [Store.scope?_of_readScope listing] at here
      obtain ⟨scope, rfl, rfl⟩ := Option.map_eq_some_iff.mp here
      have move := Move.mark ⟨.deleted, config, epoch, generation⟩ more.sound
        (more.own.trans still) ⟨_, present, .inr rfl⟩ version
      refine ⟨_, move, rfl, ?_⟩
      refine dismissStream_safe _ (.inr rfl) ?_ (more.sound.quiet_write nofun) listing member ?_
      · simp [Ledger.write]
      · exact more.grows.trans (.write _ _)
    · exact ⟨later, .refl more.sound, rfl, fun failure => more.own.trans still⟩
  · exact unpledged

end Lifecycle

theorem Operation.plan_safe {caller : Nat} {ledger : Ledger}
    (free : ledger.pledges caller = none) (settings : Settings) (operation : Operation) :
    (operation.plan settings).run.Safe caller ledger := by
  unfold plan
  cases operation.check settings with
  | error error => exact free
  | ok _ =>
    cases operation with
    | createScope name => exact Lifecycle.createScope_safe free name
    | deleteScope name => exact Lifecycle.deleteScope_safe free name
    | createStream stream config => exact Lifecycle.createStream_safe free _ stream config
    | updateStream stream config => exact Lifecycle.updateStream_safe free _ stream config
    | sealStream stream => exact Lifecycle.sealStream_safe free _ stream
    | deleteStream stream => exact Lifecycle.deleteStream_safe free _ stream

namespace Traffic

/-- Some pledges account for all that is under way. -/
def Accounted (traffic : Traffic) : Prop :=
  ∃ pledges, Ledger.Sound ⟨traffic.store, pledges⟩ ∧
    ∀ caller, (traffic.underWay caller).Safe caller ⟨traffic.store, pledges⟩

variable {traffic : Traffic}

@[simp]
theorem underWay_launch (caller other : Nat) (settings : Settings) (operation : Operation) :
    (traffic.launch caller settings operation).underWay other =
      if other = caller then (operation.plan settings).run else traffic.underWay other := by
  by_cases own : other = caller <;> simp [launch, own]

@[simp]
theorem underWay_advance (caller other : Nat) :
    (traffic.advance caller).underWay other =
      if other = caller then ((traffic.underWay caller).step traffic.store).1
      else traffic.underWay other := by
  by_cases own : other = caller <;> simp [advance, own]

theorem Accounted.empty : Accounted .empty := by
  refine ⟨fun _ => none, ⟨.empty, ?_, nofun, nofun⟩, fun _ => rfl⟩
  rintro stream (⟨record, found, live⟩ | ⟨caller, holds⟩)
  · cases found
  · cases holds

theorem Accounted.launch (accounted : traffic.Accounted) {caller : Nat}
    (free : ((traffic.underWay caller).answer?).isSome = true) (settings : Settings)
    (operation : Operation) : (traffic.launch caller settings operation).Accounted := by
  obtain ⟨pledges, sound, safe⟩ := accounted
  refine ⟨pledges, sound, fun other => ?_⟩
  by_cases own : other = caller
  · subst own
    have unpledged := (safe other).pledges_of_answer free
    rw [underWay_launch, if_pos rfl]
    exact operation.plan_safe unpledged settings
  · rw [underWay_launch, if_neg own]
    exact safe other

theorem Accounted.advance (accounted : traffic.Accounted) (caller : Nat) :
    (traffic.advance caller).Accounted := by
  obtain ⟨pledges, sound, safe⟩ := accounted
  obtain ⟨⟨store, others⟩, move, rfl, stepped⟩ := (safe caller).step sound
  refine ⟨others, move.sound, fun other => ?_⟩
  by_cases own : other = caller
  · subst own
    rw [underWay_advance, if_pos rfl]
    exact stepped
  · rw [underWay_advance, if_neg own]
    exact (safe other).rely (move.relied other own)

end Traffic

namespace Reach

variable {traffic : Traffic}

theorem accounted (reached : Reach traffic) : traffic.Accounted := by
  induction reached with
  | start => exact .empty
  | launch reached caller free settings operation ih => exact ih.launch free settings operation
  | advance reached caller ih => exact ih.advance caller

/-- Without any locks, and wherever operations have got to, a live stream is on the list of an
    active scope. When none is under way there is nobody else on the lists. -/
theorem lists_need_no_locks (reached : Reach traffic) :
    traffic.store.Filed ∧ traffic.store.LiveListed ∧
      (traffic.Idle → traffic.store.MembersLive) := by
  obtain ⟨pledges, sound, safe⟩ := reached.accounted
  refine ⟨sound.filed,
    fun stream record found live => sound.listed stream (.inl ⟨record, found, live⟩), ?_⟩
  intro idle scope parent name found member
  refine (sound.wanted scope parent name found member).resolve_right ?_
  rintro ⟨caller, holds⟩
  have unpledged := (safe caller).pledges_of_answer (idle caller)
  exact nomatch holds.symm.trans unpledged

theorem advanceAll (reached : Reach traffic) (callers : List Nat) :
    Reach (callers.foldl Traffic.advance traffic) := by
  induction callers generalizing traffic with
  | nil => exact reached
  | cons caller rest ih => exact ih (reached.advance caller)

/-- Two callers create the same stream. Both list it, one writes it, and the other finds it written
    and takes its own listing back. -/
def rivalCreations : Traffic :=
  let opened := [0, 0].foldl Traffic.advance (Traffic.empty.launch 0 {} (.createScope "s"))
  let first := opened.launch 0 {} (.createStream ⟨"s", "a"⟩ {})
  let both := first.launch 1 {} (.createStream ⟨"s", "a"⟩ {})
  [0, 0, 0, 1, 1, 1, 0, 1, 1].foldl Traffic.advance both

theorem idle_rivalCreations : rivalCreations.Idle := by
  intro caller
  match caller with
  | 0 => rfl
  | 1 => rfl
  | other + 2 =>
    simp [rivalCreations]
    rfl

theorem lists_need_no_locks_rivals :
    Reach rivalCreations ∧ rivalCreations.Idle ∧
      (rivalCreations.underWay 0).answer? = some (.ok true) ∧
      (rivalCreations.underWay 1).answer? =
        some (.error (.store (.versionMismatch (.stream ⟨"s", "a"⟩) none (some 1)))) ∧
      rivalCreations.store.Filed ∧ rivalCreations.store.LiveListed ∧
      rivalCreations.store.MembersLive := by
  have opened := advanceAll (.launch .start 0 rfl {} (.createScope "s")) [0, 0]
  have first := Reach.launch opened 0 rfl {} (.createStream ⟨"s", "a"⟩ {})
  have both := Reach.launch first 1 rfl {} (.createStream ⟨"s", "a"⟩ {})
  have reached : Reach rivalCreations := advanceAll both [0, 0, 0, 1, 1, 1, 0, 1, 1]
  obtain ⟨filed, listed, exact⟩ := lists_need_no_locks reached
  exact ⟨reached, idle_rivalCreations, rfl, rfl, filed, listed, exact idle_rivalCreations⟩

end Reach

end StreamCatalog
