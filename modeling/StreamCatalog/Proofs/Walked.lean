import Std.Data.String.ToNat
import StreamCatalog.Hash.Text
import StreamCatalog.Proofs.Names
import StreamCatalog.Proofs.WalkedStream

namespace StreamCatalog

namespace Walkthrough

/-- A lookup that finds an entry for every marked item, and nothing under any other key. -/
structure Tabulated (look : κ → α) (blank : α) (key : ι → κ) (entry : ι → α) (marked : ι → Prop) :
    Prop where
  entered : ∀ item, marked item → look (key item) = entry item
  blank : ∀ place, (∀ item, marked item → key item ≠ place) → look place = blank

namespace Tabulated

variable {look : κ → α} {blank : α} {key : ι → κ} {entry : ι → α} {marked : ι → Prop}

theorem of_blank (nothing : ∀ place, look place = blank) :
    Tabulated look blank key entry fun _ => False :=
  ⟨fun _ => False.elim, fun place _ => nothing place⟩

theorem congr {others : ι → Prop} (tabulated : Tabulated look blank key entry marked)
    (same : ∀ item, others item ↔ marked item) : Tabulated look blank key entry others := by
  rwa [funext fun item => propext (same item)]

theorem unmarked (tabulated : Tabulated look blank key entry marked)
    (injective : Function.Injective key) {item : ι} (out : ¬ marked item) :
    look (key item) = blank := by
  apply tabulated.blank
  intro other inside same
  exact out (injective same ▸ inside)

theorem exists_marked (tabulated : Tabulated look blank key entry marked) {place : κ}
    (filled : look place ≠ blank) : ∃ item, marked item ∧ key item = place := by
  apply Classical.byContradiction
  intro nowhere
  apply filled
  apply tabulated.blank
  intro item inside same
  exact nowhere ⟨item, inside, same⟩

theorem enter [DecidableEq κ] (tabulated : Tabulated look blank key entry marked)
    (injective : Function.Injective key) (item : ι) :
    Tabulated (Function.update look (key item) (entry item)) blank key entry
      fun other => marked other ∨ other = item := by
  constructor
  · intro other inside
    by_cases same : other = item
    · rw [same, Function.update_self]
    · rw [Function.update_of_ne fun keys => same (injective keys)]
      exact tabulated.entered other (inside.resolve_right same)
  · intro place apart
    have other : place ≠ key item := (apart item (.inr rfl)).symm
    rw [Function.update_of_ne other]
    exact tabulated.blank place fun item inside => apart item (.inl inside)

end Tabulated

section Names

theorem fits_append {first second : String} {limit more : Nat} (front : Fits limit first)
    (back : Fits more second) : Fits (limit + more) (first ++ second) := by
  obtain ⟨some, short, allowed⟩ := (checkName_ok_iff _ _).mp front
  obtain ⟨-, brief, permitted⟩ := (checkName_ok_iff _ _).mp back
  apply (checkName_ok_iff _ _).mpr
  rw [IsName, String.length_append, String.toList_append]
  refine ⟨by omega, by omega, ?_⟩
  intro c member
  rcases List.mem_append.mp member with inFront | inBack
  · exact allowed c inFront
  · exact permitted c inBack

theorem fits_number {number : Nat} (small : number < 2 ^ 32) : Fits 10 (toString number) := by
  have shown : toString number = String.ofList (Nat.toDigits 10 number) := rfl
  have short : (Nat.toDigits 10 number).length ≤ 10 :=
    (Nat.length_toDigits_le_iff (by decide) (by decide)).mpr (Nat.lt_trans small (by decide))
  apply (checkName_ok_iff 10 _).mpr
  rw [shown, IsName, String.length_ofList, String.toList_ofList]
  refine ⟨Nat.length_toDigits_pos, short, ?_⟩
  intro c member
  have digit := Nat.isDigit_of_mem_toDigits (by decide) (by decide) member
  apply (isNameChar_iff c).mp
  simp only [isNameChar, Char.isAlphanum, digit, Bool.or_true, Bool.true_or]

theorem fits_scopeName {index : Nat} (small : index < 2 ^ 32) : Fits 255 (scopeName index) := by
  have front : Fits 9 "lifecycle" := by rfl
  exact (fits_append front (fits_number small)).mono (by decide)

theorem scopeName_injective : Function.Injective scopeName := by
  intro index other same
  exact Nat.repr_injective ((String.append_right_inj _).mp same)

theorem scopeName_ne (index : Nat) : scopeName index ≠ "nonexistentScope" := by
  intro same
  have first := congrArg (fun name => name.toList.head?) same
  simp [scopeName] at first

end Names

def streamOf (item : Nat × Nat) : StreamId := ⟨scopeName item.1, toString item.2⟩

theorem streamOf_injective : Function.Injective streamOf := by
  intro item other same
  have scopes := scopeName_injective (congrArg StreamId.scope same)
  have numbers := Nat.repr_injective (congrArg StreamId.name same)
  exact Prod.ext scopes numbers

theorem named_streamOf {item : Nat × Nat} (scope : item.1 < 2 ^ 32) (number : item.2 < 2 ^ 32) :
    Named (streamOf item) :=
  ⟨fits_scopeName scope, (fits_number number).mono (by decide)⟩

def eventsOf (hash : String → UInt64) (item : Nat × Nat) : Incarnation × Nat :=
  placeOf hash (streamOf item) (lastRecord item.2)

theorem eventsOf_injective (hash : String → UInt64) : Function.Injective (eventsOf hash) := by
  intro item other same
  exact streamOf_injective (congrArg (fun place => place.1.stream) same)

/-- Exactly these streams have lived, and the scopes are as given. -/
structure Stands (hash : String → UInt64) (scopes : String → Option ScopeRecord)
    (walked : Nat × Nat → Prop) (catalog : Catalog) : Prop where
  filed : catalog.store.Filed
  scopes : catalog.store.scope? = scopes
  streams : Tabulated catalog.store.stream? none streamOf (fun item => some (lastRecord item.2))
    walked
  compact : (catalog.path.events 0).Compact
  contents : Tabulated (catalog.path.events 0).contents #[] (eventsOf hash)
    (fun _ => payloads eventsPerStream) fun item => walked item ∧ item.2 % 2 = 0

namespace Stands

variable {hash : String → UInt64} {scopes : String → Option ScopeRecord}
  {walked : Nat × Nat → Prop} {catalog : Catalog}

theorem empty : Stands hash Store.empty.scope? (fun _ => False) .empty := by
  have silent : Catalog.empty.path.events 0 = .empty := by
    simp [Catalog.empty, DataPath.empty, DataPath.events]
  refine ⟨.empty, rfl, ?_, ?_, ?_⟩
  · exact .of_blank fun stream => by simp [Catalog.empty, Store.stream?]
  · rw [silent]
    exact .empty
  · apply (Tabulated.of_blank ?_).congr
    · exact fun item => iff_of_false (fun inside => inside.1) id
    · intro place
      rw [silent, EventStore.contents, EventStore.read_empty]

theorem writeScope (stands : Stands hash scopes walked catalog) (name : String)
    (record : ScopeRecord) :
    Stands hash (Function.update scopes name (some record)) walked
      ⟨catalog.store.write (.scope name record), catalog.path⟩ := by
  refine ⟨stands.filed.write _, ?_, ?_, stands.compact, stands.contents⟩
  · rw [Store.scope?_write_scope_eq, stands.scopes]
  · rw [Store.stream?_write_scope_eq]
    exact stands.streams

theorem congr {others : Nat × Nat → Prop} (stands : Stands hash scopes walked catalog)
    (same : ∀ item, others item ↔ walked item) : Stands hash scopes others catalog := by
  rwa [funext fun item => propext (same item)]

theorem walkStream {index number : Nat} (stands : Stands hash scopes walked catalog)
    (here : index < 2 ^ 32) (positive : 0 < number) (small : number < 2 ^ 32)
    (vacant : scopes (scopeName index) = some .fresh) (missing : scopes "nonexistentScope" = none)
    (new : ¬ walked (index, number)) :
    Succeeds (walkStream hash (scopeName index) number) ()
      (Stands hash scopes fun item => walked item ∨ item = (index, number)) catalog := by
  have named : Named (streamOf (index, number)) := named_streamOf here small
  have unborn := stands.streams.unmarked streamOf_injective new
  have silent := stands.contents.unmarked (eventsOf_injective hash)
    (fun inside => new inside.1 : ¬ (walked (index, number) ∧ number % 2 = 0))
  rw [← stands.scopes] at vacant missing
  apply (walkStream_succeeds hash named positive stands.filed vacant unborn missing
    stands.compact silent).weaken
  intro later lived
  refine ⟨lived.filed, lived.scopes.trans stands.scopes, ?_, lived.compact, ?_⟩
  · rw [lived.streams]
    exact stands.streams.enter streamOf_injective (index, number)
  · rw [lived.contents]
    -- Only an even stream marks a new place; an odd one leaves the marks as they are.
    by_cases even : number % 2 = 0
    · rw [if_pos even]
      apply (stands.contents.enter (eventsOf_injective hash) (index, number)).congr
      intro item
      constructor
      · rintro ⟨inside | last, evenItem⟩
        · exact .inl ⟨inside, evenItem⟩
        · exact .inr last
      · rintro (⟨inside, evenItem⟩ | rfl)
        · exact ⟨.inl inside, evenItem⟩
        · exact ⟨.inr rfl, even⟩
    · rw [if_neg even]
      apply stands.contents.congr
      intro item
      constructor
      · rintro ⟨inside | rfl, evenItem⟩
        · exact ⟨inside, evenItem⟩
        · exact absurd evenItem even
      · rintro ⟨inside, evenItem⟩
        exact ⟨.inl inside, evenItem⟩

theorem onScope (stands : Stands hash scopes walked catalog) {name : String}
    {current : Option ScopeRecord} (found : scopes name = current)
    (judge : Option ScopeRecord → Verdict) :
    Verdict.onScope catalog.store name judge = judge current := by
  rw [Verdict.onScope_filed stands.filed, stands.scopes, found]

section Scopes

variable (stands : Stands hash scopes walked catalog) {name : String} (fits : Fits 255 name)

include stands fits

theorem deletesNoScope (missing : scopes name = none) :
    Succeeds (operate hash Reply.isNoChange (.deleteScope name)) () (Stands hash scopes walked)
      catalog := by
  have valid : (Operation.deleteScope name).check {} = .ok () :=
    Operation.check_of_fits fits nofun nofun
  exact succeeds_operate hash valid (stands.onScope missing _) rfl stands

theorem createsScope (missing : scopes name = none) :
    Succeeds (operate hash Reply.isChange (.createScope name)) ()
      (Stands hash (Function.update scopes name (some .fresh)) walked) catalog := by
  have valid : (Operation.createScope name).check {} = .ok () :=
    Operation.check_of_fits fits nofun nofun
  exact succeeds_operate hash valid (stands.onScope missing _) rfl (stands.writeScope name .fresh)

theorem keepsScope (vacant : scopes name = some .fresh) :
    Succeeds (operate hash Reply.isNoChange (.createScope name)) () (Stands hash scopes walked)
      catalog := by
  have valid : (Operation.createScope name).check {} = .ok () :=
    Operation.check_of_fits fits nofun nofun
  exact succeeds_operate hash valid (stands.onScope vacant _) rfl stands

theorem deletesScope (vacant : scopes name = some .fresh) :
    Succeeds (operate hash Reply.isChange (.deleteScope name)) ()
      (Stands hash (Function.update scopes name (some .tombstone)) walked) catalog := by
  have valid : (Operation.deleteScope name).check {} = .ok () :=
    Operation.check_of_fits fits nofun nofun
  exact succeeds_operate hash valid (stands.onScope vacant _) rfl
    (stands.writeScope name .tombstone)

end Scopes

end Stands

/-- So many scopes have been walked through, each with all its streams. -/
structure Finished (hash : String → UInt64) (streams scopes : Nat) (catalog : Catalog) : Prop where
  stands : Stands hash catalog.store.scope?
    (fun item => item.1 < scopes ∧ 1 ≤ item.2 ∧ item.2 ≤ streams) catalog
  closed : Tabulated catalog.store.scope? none scopeName (fun _ => some .tombstone) (· < scopes)

namespace Finished

variable {hash : String → UInt64} {streams index : Nat} {catalog : Catalog}

theorem empty : Finished hash streams 0 .empty := by
  constructor
  · exact Stands.empty.congr fun item => iff_of_false (fun inside => Nat.not_lt_zero _ inside.1) id
  · have nothing : ∀ name, Catalog.empty.store.scope? name = none := fun name => by
      simp [Catalog.empty, Store.scope?]
    exact (Tabulated.of_blank nothing).congr fun other =>
      iff_of_false (Nat.not_lt_zero other) id

theorem walkStreams {scopes : String → Option ScopeRecord} (few : streams < 2 ^ 31)
    (here : index < 2 ^ 32) (vacant : scopes (scopeName index) = some .fresh)
    (missing : scopes "nonexistentScope" = none)
    (stands : Stands hash scopes
      (fun item => item.1 < index ∧ 1 ≤ item.2 ∧ item.2 ≤ streams) catalog) :
    Succeeds ((List.range streams).forM fun n => walkStream hash (scopeName index) (n + 1)) ()
      (Stands hash scopes fun item => item.1 < index + 1 ∧ 1 ≤ item.2 ∧ item.2 ≤ streams)
      catalog := by
  -- Before each round the scope at hand counts as far as its streams have come.
  let lived (count : Nat) (item : Nat × Nat) : Prop :=
    item.1 < index ∧ 1 ≤ item.2 ∧ item.2 ≤ streams ∨
      item.1 = index ∧ 1 ≤ item.2 ∧ item.2 ≤ count
  have start : Stands hash scopes (lived 0) catalog := stands.congr fun item => by
    simp only [lived]
    omega
  apply (Succeeds.forM (fun count => Stands hash scopes (lived count)) streams start ?_).weaken
  · intro later ends
    apply ends.congr
    intro item
    simp only [lived]
    omega
  · intro n below catalog stands
    have new : ¬ lived n (index, n + 1) := by
      simp only [lived]
      omega
    apply (stands.walkStream here n.succ_pos (by omega) vacant missing new).weaken
    intro later next
    apply next.congr
    intro item
    simp only [lived, Prod.ext_iff]
    omega

theorem walkScope (few : streams < 2 ^ 31) (here : index < 2 ^ 32)
    (finished : Finished hash streams index catalog) :
    Succeeds (walkScope hash streams index) ("Scope lifecycle" ++ toString index ++ " done")
      (Finished hash streams (index + 1)) catalog := by
  let name := scopeName index
  have fits : Fits 255 name := fits_scopeName here
  have missing : catalog.store.scope? name = none :=
    finished.closed.unmarked scopeName_injective (Nat.lt_irrefl index)
  let opened := Function.update catalog.store.scope? name (some ScopeRecord.fresh)
  have vacant : opened name = some .fresh := Function.update_self ..
  have absent : catalog.store.scope? "nonexistentScope" = none :=
    finished.closed.blank _ fun other _ => scopeName_ne other
  have nowhere : opened "nonexistentScope" = none :=
    (Function.update_of_ne (scopeName_ne index).symm ..).trans absent
  apply (finished.stands.deletesNoScope fits missing).bind
  intro _ stands
  apply (stands.createsScope fits missing).bind
  intro _ stands
  apply (walkStreams few here vacant nowhere stands).bind
  intro _ stands
  apply (stands.keepsScope fits vacant).bind
  intro _ stands
  apply (stands.deletesScope fits vacant).bind
  intro later stands
  have line : "Scope " ++ scopeName index ++ " done" =
      "Scope lifecycle" ++ toString index ++ " done" := by
    rw [scopeName, ← String.append_assoc]
    rfl
  rw [line]
  apply Succeeds.pure
  have deleted : later.store.scope? =
      Function.update catalog.store.scope? name (some .tombstone) := by
    rw [stands.scopes, Function.update_idem]
  refine ⟨⟨stands.filed, rfl, stands.streams, stands.compact, stands.contents⟩, ?_⟩
  rw [deleted]
  apply (finished.closed.enter scopeName_injective index).congr
  intro other
  exact Nat.lt_succ_iff_lt_or_eq

end Finished

/-- What the walk leaves: the tombstones of scopes and streams, and of each stream with an even
    number the events, in one segment. -/
structure Ended (scopes streams : Nat) (catalog : Catalog) : Prop where
  closed : ∀ index < scopes, catalog.store.scope? (scopeName index) = some ⟨.deleted, ∅⟩
  deleted : ∀ index < scopes, ∀ number, 1 ≤ number → number ≤ streams →
    catalog.store.stream? ⟨scopeName index, toString number⟩ =
      some ⟨.deleted, .fixed (2 * number), 2, 0⟩
  /-- There are no other records. -/
  records : ∀ key, catalog.store.get key ≠ none →
    (∃ index < scopes, key = .scope (scopeName index)) ∨
      ∃ index < scopes, ∃ number, 1 ≤ number ∧ number ≤ streams ∧
        key = .stream ⟨scopeName index, toString number⟩
  even : ∀ index < scopes, ∀ number, 1 ≤ number → number ≤ streams → number % 2 = 0 →
    let written : Incarnation := ⟨⟨scopeName index, toString number⟩, 0⟩
    (catalog.path.events 0).count written = 100 ∧
      ∃ segment, (catalog.path.events 0).usedSegments written = [segment] ∧
        (catalog.path.events 0).read written segment = payloads 100
  odd : ∀ index < scopes, ∀ number, 1 ≤ number → number ≤ streams → number % 2 = 1 →
    ∀ generation, (catalog.path.events 0).count
      ⟨⟨scopeName index, toString number⟩, generation⟩ = 0
  /-- There are no other events. -/
  events : ∀ incarnation, (catalog.path.events 0).count incarnation ≠ 0 →
    ∃ index < scopes, ∃ number, 1 ≤ number ∧ number ≤ streams ∧ number % 2 = 0 ∧
      incarnation = ⟨⟨scopeName index, toString number⟩, 0⟩

section End

variable {hash : String → UInt64} {streams scopes : Nat} {catalog : Catalog}
  (finished : Finished hash streams scopes catalog)

include finished

theorem Finished.records (key : Key) (present : catalog.store.get key ≠ none) :
    (∃ index < scopes, key = .scope (scopeName index)) ∨
      ∃ index < scopes, ∃ number, 1 ≤ number ∧ number ≤ streams ∧
        key = .stream ⟨scopeName index, toString number⟩ := by
  obtain ⟨found, held⟩ := Option.ne_none_iff_exists'.mp present
  have value : catalog.store.value? key = some found.value := by
    rw [Store.value?, held]
    rfl
  cases key with
  | scope name =>
    obtain ⟨record, same⟩ := finished.stands.filed.scopes name _ value
    have known : catalog.store.scope? name ≠ none := by
      rw [Store.scope?, value, same]
      exact Option.some_ne_none record
    obtain ⟨index, inside, rfl⟩ := finished.closed.exists_marked known
    exact .inl ⟨index, inside, rfl⟩
  | stream stream =>
    obtain ⟨record, same⟩ := finished.stands.filed.streams stream _ value
    have known : catalog.store.stream? stream ≠ none := by
      rw [Store.stream?, value, same]
      exact Option.some_ne_none record
    obtain ⟨⟨index, number⟩, ⟨inside, first, last⟩, rfl⟩ :=
      finished.stands.streams.exists_marked known
    exact .inr ⟨index, inside, number, first, last, rfl⟩

theorem Finished.events_at {incarnation : Incarnation} {segment : Nat}
    (filled : (catalog.path.events 0).read incarnation segment ≠ #[]) :
    ∃ index < scopes, ∃ number, 1 ≤ number ∧ number ≤ streams ∧ number % 2 = 0 ∧
      eventsOf hash (index, number) = (incarnation, segment) := by
  have found : (catalog.path.events 0).contents (incarnation, segment) ≠ #[] := filled
  obtain ⟨⟨index, number⟩, ⟨⟨inside, first, last⟩, even⟩, same⟩ :=
    finished.stands.contents.exists_marked found
  exact ⟨index, inside, number, first, last, even, same⟩

theorem Finished.silent {incarnation : Incarnation}
    (nobody : ∀ index < scopes, ∀ number, 1 ≤ number → number ≤ streams → number % 2 = 0 →
      incarnation ≠ ⟨⟨scopeName index, toString number⟩, 0⟩) :
    (catalog.path.events 0).count incarnation = 0 := by
  have nothing (segment : Nat) : (catalog.path.events 0).read incarnation segment = #[] := by
    apply Classical.byContradiction
    intro filled
    obtain ⟨index, inside, number, first, last, even, same⟩ := finished.events_at filled
    exact nobody index inside number first last even (congrArg Prod.fst same).symm
  have unused := EventStore.usedSegments_of_silent incarnation finished.stands.compact nothing
  rw [EventStore.count_eq_sum, unused]
  rfl

theorem Finished.written {index number : Nat} (inside : index < scopes) (first : 1 ≤ number)
    (last : number ≤ streams) (even : number % 2 = 0) :
    let written : Incarnation := ⟨⟨scopeName index, toString number⟩, 0⟩
    (catalog.path.events 0).count written = 100 ∧
      ∃ segment, (catalog.path.events 0).usedSegments written = [segment] ∧
        (catalog.path.events 0).read written segment = payloads 100 := by
  intro written
  let segment := (eventsOf hash (index, number)).2
  have held : (catalog.path.events 0).read written segment = payloads 100 :=
    finished.stands.contents.entered (index, number) ⟨⟨inside, first, last⟩, even⟩
  have filled : (catalog.path.events 0).read written segment ≠ #[] := by
    intro nothing
    have sizes := congrArg Array.size (held.symm.trans nothing)
    rw [size_payloads] at sizes
    cases sizes
  have alone : ∀ other, other ≠ segment → (catalog.path.events 0).read written other = #[] := by
    intro other apart
    apply Classical.byContradiction
    intro filled
    obtain ⟨scope, -, stream, -, -, -, same⟩ := finished.events_at filled
    have item : (scope, stream) = (index, number) :=
      streamOf_injective (congrArg (fun place => place.1.stream) same)
    rw [item] at same
    exact apart (congrArg Prod.snd same).symm
  have used := EventStore.usedSegments_of_single written finished.stands.compact filled alone
  refine ⟨?_, segment, used, held⟩
  rw [EventStore.count_eq_sum, used, List.map_singleton, List.sum_singleton, held, size_payloads]

theorem Finished.ended : Ended scopes streams catalog where
  closed index inside := finished.closed.entered index inside
  deleted index inside number first last := by
    have found := finished.stands.streams.entered (index, number) ⟨inside, first, last⟩
    rw [lastRecord, Nat.mul_comm] at found
    exact found
  records := finished.records
  even index inside number first last even := finished.written inside first last even
  odd index inside number first last odd generation := by
    apply finished.silent
    intro scope _ stream _ _ even same
    have item : (index, number) = (scope, stream) :=
      streamOf_injective (congrArg Incarnation.stream same)
    cases item
    omega
  events incarnation some := by
    apply Classical.byContradiction
    intro nowhere
    apply some
    apply finished.silent
    intro index inside number first last even same
    exact nowhere ⟨index, inside, number, first, last, even, same⟩

end End

def report (scopes streams : Nat) : List String :=
  (List.range scopes).map (fun index => "Scope lifecycle" ++ toString index ++ " done") ++
    ["Managed " ++ toString scopes ++ " scopes x " ++ toString streams ++ " streams"]

theorem walk_succeeds (hash : String → UInt64) {scopes streams : Nat} (many : scopes < 2 ^ 32)
    (few : streams < 2 ^ 31) :
    Succeeds (walk hash scopes streams) (report scopes streams) (Finished hash streams scopes)
      .empty := by
  have looped := Succeeds.mapM (Finished hash streams) scopes .empty
    fun index below catalog finished => finished.walkScope few (Nat.lt_trans below many)
  exact looped.bind fun _ finished => .pure finished

/-- The walk comes through at every size, tells of every scope, and leaves nothing alive. -/
theorem run_succeeds_at_every_size (hash : String → UInt64) (scopes streams : Nat)
    (many : scopes < 2 ^ 32) (few : streams < 2 ^ 31) :
    ∃ catalog, run hash scopes streams = (.ok (report scopes streams), catalog) ∧
      Ended scopes streams catalog ∧
      ∀ arguments, readSizes arguments = .ok (scopes, streams) →
        command hash arguments = ⟨0, report scopes streams, []⟩ := by
  obtain ⟨catalog, ran, finished⟩ := walk_succeeds hash many few
  have whole : run hash scopes streams = (.ok (report scopes streams), catalog) := ran
  refine ⟨catalog, whole, finished.ended, ?_⟩
  intro arguments sizes
  rw [command, sizes]
  simp only [whole]

theorem run_succeeds_at_every_size_two_by_three :
    ∃ catalog, run textHash 2 3 = (.ok ["Scope lifecycle0 done", "Scope lifecycle1 done",
        "Managed 2 scopes x 3 streams"], catalog) ∧
      catalog.store.scope? "lifecycle1" = some .tombstone ∧
      catalog.store.stream? ⟨"lifecycle1", "3"⟩ = some ⟨.deleted, .fixed 6, 2, 0⟩ ∧
      (catalog.path.events 0).count ⟨⟨"lifecycle0", "2"⟩, 0⟩ = 100 ∧
      (catalog.path.events 0).count ⟨⟨"lifecycle1", "3"⟩, 0⟩ = 0 ∧
      command textHash ["2", "3"] = ⟨0, ["Scope lifecycle0 done", "Scope lifecycle1 done",
        "Managed 2 scopes x 3 streams"], []⟩ := by
  obtain ⟨catalog, ran, ended, commanded⟩ :=
    run_succeeds_at_every_size textHash 2 3 (by decide) (by decide)
  refine ⟨catalog, ran, ended.closed 1 (by decide), ended.deleted 1 (by decide) 3 (by decide)
    (by decide), (ended.even 0 (by decide) 2 (by decide) (by decide) (by decide)).1,
    ended.odd 1 (by decide) 3 (by decide) (by decide) (by decide) 0, commanded ["2", "3"] rfl⟩

end Walkthrough

end StreamCatalog
