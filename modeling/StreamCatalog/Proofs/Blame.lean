import StreamCatalog.Proofs.Attempt
import StreamCatalog.Proofs.Failures
import StreamCatalog.Proofs.KeyText
import StreamCatalog.Store.Faulty

namespace StreamCatalog

def StoreFailure.key? : StoreFailure → Option Key
  | .versionMismatch key _ _ | .unexpectedRecord key => some key
  | .unavailable _ => none

def StoreFailure.keyText? (failure : StoreFailure) : Option String := failure.key?.map Key.display

/-- Whether a result blames the store for no keys but these. -/
def Blames (blame : ε → Option StoreFailure) (allowed : Key → Prop) : Except ε α → Prop
  | .ok _ => True
  | .error error =>
    ∀ failure key, blame error = some failure → failure.key? = some key → allowed key

theorem Blames.widen {allowed : Key → Prop} {key : Key} {reply : Except StoreFailure α}
    (candid : Blames some (· = key) reply) (permitted : allowed key) :
    Blames some allowed reply := by
  cases reply with
  | ok answer => exact True.intro
  | error failure =>
    intro other named same has
    have here : named = key := candid other named same has
    exact here ▸ permitted

theorem Blames.of_none {blame : ε → Option StoreFailure} {allowed : Key → Prop} {error : ε}
    (silent : blame error = none) : Blames blame allowed (.error error : Except ε α) := by
  intro failure key same
  cases silent.symm.trans same

theorem Blames.unavailable {allowed : Key → Prop} (text : String) :
    Blames some allowed (.error (.unavailable text) : Except StoreFailure α) := by
  intro failure key same named
  cases same
  cases named

/-- A store whose failures name the key that they are about. -/
structure Service.Candid (service : Service σ) : Prop where
  get : ∀ key world, Blames some (· = key) (service.get key world).1
  compareAndSet : ∀ key expected record world,
    Blames some (· = key) (service.compareAndSet key expected record world).1
  scopeNames : ∀ world, Blames some (fun _ => False) (service.scopeNames world).1

namespace Plan

/-- Whether all answers of a plan are of a kind, as long as it is told of failures candidly. -/
def Answers (kind : α → Prop) : Plan α → Prop
  | done answer => kind answer
  | get key next | compareAndSet key _ _ next =>
    ∀ reply, Blames some (· = key) reply → (next reply).Answers kind
  | scopeNames next => ∀ reply, Blames some (fun _ => False) reply → (next reply).Answers kind
  | note _ next => next.Answers kind

namespace Answers

theorem run {kind : α → Prop} {plan : Plan α} (answers : plan.Answers kind) {service : Service σ}
    (candid : service.Candid) (world : σ) : kind (plan.run service world).1 := by
  induction plan generalizing world with
  | done answer => exact answers
  | get key next ih => exact ih _ (answers _ (candid.get key world)) _
  | compareAndSet key expected record next ih =>
    exact ih _ (answers _ (candid.compareAndSet key expected record world)) _
  | scopeNames next ih => exact ih _ (answers _ (candid.scopeNames world)) _
  | note notice next ih => exact ih answers _

theorem bind {middle : α → Prop} {kind : β → Prop} {plan : Plan α} {rest : α → Plan β}
    (first : plan.Answers middle) (others : ∀ answer, middle answer → (rest answer).Answers kind) :
    (plan.bind rest).Answers kind := by
  induction plan with
  | done answer => exact others answer first
  | get key next ih => exact fun reply candid => ih reply (first reply candid)
  | compareAndSet key expected record next ih =>
    exact fun reply candid => ih reply (first reply candid)
  | scopeNames next ih => exact fun reply candid => ih reply (first reply candid)
  | note notice next ih => exact ih first

variable {allowed : Key → Prop}

theorem sequence {blame : ε → Option StoreFailure} {first : ExceptT ε Plan α}
    {rest : α → ExceptT ε Plan β} (began : first.run.Answers (Blames blame allowed))
    (others : ∀ answer, (rest answer).run.Answers (Blames blame allowed)) :
    (first >>= rest).run.Answers (Blames blame allowed) := by
  apply bind began
  intro reply blamed
  cases reply with
  | ok answer => exact others answer
  | error error => exact blamed

theorem fetch {fetch : Fetch α} (answers : fetch.run.Answers (Blames some allowed)) :
    (liftM fetch : Action α).run.Answers (Blames Error.failure? allowed) := by
  apply bind answers
  intro reply blamed
  cases reply with
  | ok answer => exact True.intro
  | error failure => exact blamed

end Answers

end Plan

namespace Fetch

variable {allowed : Key → Prop} {key : Key}

theorem get_answers (permitted : allowed key) : (get key).run.Answers (Blames some allowed) :=
  fun _ candid => candid.widen permitted

theorem compareAndSet_answers (permitted : allowed key) (expected : Option Nat) (record : Record) :
    (compareAndSet key expected record).run.Answers (Blames some allowed) :=
  fun _ candid => candid.widen permitted

end Fetch

namespace Lookup

variable {allowed : Key → Prop}

theorem scopeRecord_answers {name : String} (permitted : allowed (.scope name)) :
    (scopeRecord name).run.Answers (Blames some allowed) := by
  apply Plan.Answers.sequence (Fetch.get_answers permitted)
  intro current
  rcases current with _ | ⟨_ | _, version⟩
  · exact True.intro
  · exact True.intro
  · rintro _ key ⟨⟩ ⟨⟩
    exact permitted

theorem streamRecord_answers {stream : StreamId} (permitted : allowed (.stream stream)) :
    (streamRecord stream).run.Answers (Blames some allowed) := by
  apply Plan.Answers.sequence (Fetch.get_answers permitted)
  intro current
  rcases current with _ | ⟨_ | _, version⟩
  · exact True.intro
  · rintro _ key ⟨⟩ ⟨⟩
    exact permitted
  · exact True.intro

theorem scopeExists_answers {name : String} (permitted : allowed (.scope name)) :
    (scopeExists name).run.Answers (Blames some allowed) := by
  apply Plan.Answers.sequence (scopeRecord_answers permitted)
  intro current
  cases current <;> exact True.intro

theorem keepActive_answers {names : List String}
    (permitted : ∀ name ∈ names, allowed (.scope name)) :
    (keepActive names).run.Answers (Blames some allowed) := by
  induction names with
  | nil => exact True.intro
  | cons name rest ih =>
    have others := ih fun other member => permitted other (List.mem_cons_of_mem name member)
    apply Plan.Answers.sequence (scopeExists_answers (permitted name List.mem_cons_self))
    intro active
    exact Plan.Answers.sequence others fun _ => True.intro

theorem streamInfo_answers {stream : StreamId} (permitted : allowed (.stream stream)) :
    (streamInfo stream).run.Answers (Blames some allowed) := by
  apply Plan.Answers.sequence (streamRecord_answers permitted)
  intro current
  cases current <;> exact True.intro

theorem scopeIsEmpty_answers {name : String} (permitted : allowed (.scope name)) :
    (scopeIsEmpty name).run.Answers (Blames some allowed) := by
  apply Plan.Answers.sequence (scopeRecord_answers permitted)
  intro current
  cases current <;> exact True.intro

theorem scopes_answers (permitted : ∀ name, allowed (.scope name)) :
    scopes.run.Answers (Blames some allowed) := by
  have listed : Fetch.scopeNames.run.Answers (Blames some allowed) := by
    intro reply candid
    cases reply with
    | ok names => exact True.intro
    | error failure => exact fun other key same has => (candid other key same has).elim
  apply Plan.Answers.sequence listed
  intro names
  have kept := keepActive_answers fun name (_ : name ∈ names) => permitted name
  exact Plan.Answers.sequence kept fun _ => True.intro

theorem streamExists_answers {stream : StreamId} (permitted : allowed (.stream stream)) :
    (streamExists stream).run.Answers (Blames some allowed) := by
  apply Plan.Answers.sequence (streamRecord_answers permitted)
  intro current
  cases current <;> exact True.intro

theorem streamIsActive_answers {stream : StreamId} (permitted : allowed (.stream stream)) :
    (streamIsActive stream).run.Answers (Blames some allowed) := by
  apply Plan.Answers.sequence (streamInfo_answers permitted)
  intro info
  cases info <;> exact True.intro

end Lookup

namespace Lifecycle

open Lookup Plan

variable {allowed : Key → Prop}

theorem blames_onScope (name : String) (streams : Nat) (reason : Rejection) :
    Blames Error.failure? allowed (.error (reason.onScope name streams) : Except Error Bool) := by
  cases reason <;> exact .of_none rfl

theorem blames_onStream (stream : StreamId) (reason : Rejection) :
    Blames Error.failure? allowed (.error (reason.onStream stream) : Except Error Bool) := by
  cases reason <;> exact .of_none rfl

theorem createScope_answers {name : String} (permitted : allowed (.scope name)) :
    (createScope name).run.Answers (Blames Error.failure? allowed) := by
  apply Answers.sequence (.fetch (scopeRecord_answers permitted))
  intro current
  split
  · exact Answers.sequence (.fetch (Fetch.compareAndSet_answers permitted _ _)) fun _ => True.intro
  · exact True.intro
  · exact blames_onScope _ _ _

theorem deleteScope_answers {name : String} (permitted : allowed (.scope name)) :
    (deleteScope name).run.Answers (Blames Error.failure? allowed) := by
  apply Answers.sequence (.fetch (scopeRecord_answers permitted))
  intro current
  dsimp only
  split
  · exact Answers.sequence (.fetch (Fetch.compareAndSet_answers permitted _ _)) fun _ => True.intro
  · exact True.intro
  · exact blames_onScope _ _ _

section Streams

variable {stream : StreamId} (nameReuse : Bool) (here : allowed (.stream stream))

include here

theorem updateStream_answers (config : StreamConfig) :
    (updateStream nameReuse stream config).run.Answers (Blames Error.failure? allowed) := by
  apply Answers.sequence (.fetch (streamRecord_answers here))
  intro current
  dsimp only
  split
  · exact Answers.sequence (.fetch (Fetch.compareAndSet_answers here _ _)) fun _ => True.intro
  · exact blames_onStream _ _
  · exact True.intro

theorem sealStream_answers :
    (sealStream nameReuse stream).run.Answers (Blames Error.failure? allowed) := by
  apply Answers.sequence (.fetch (streamRecord_answers here))
  intro current
  dsimp only
  split
  · exact Answers.sequence (.fetch (Fetch.compareAndSet_answers here _ _)) fun _ => True.intro
  · exact blames_onStream _ _
  · exact True.intro

variable (around : allowed (.scope stream.scope))

include around

theorem createStream_answers (config : StreamConfig) :
    (createStream nameReuse stream config).run.Answers (Blames Error.failure? allowed) := by
  apply Answers.sequence (.fetch (scopeRecord_answers around))
  intro scope
  split
  · apply Answers.sequence (.fetch (streamRecord_answers here))
    intro current
    dsimp only
    split
    · apply Answers.sequence (.fetch (Fetch.compareAndSet_answers around _ _))
      intro listed reply candid
      cases reply with
      | ok version => exact True.intro
      | error failure =>
        -- The roll-back may fail as well, but what is answered is the first failure.
        intro reply _
        have blamed := candid.widen here
        cases reply <;> exact blamed
    · exact True.intro
    · exact blames_onStream _ _
  · exact blames_onStream stream .scopeNotFound

theorem deleteStream_answers :
    (deleteStream nameReuse stream).run.Answers (Blames Error.failure? allowed) := by
  apply Answers.sequence (.fetch (streamRecord_answers here))
  intro current
  dsimp only
  split
  · apply Answers.sequence (.fetch (scopeRecord_answers around))
    intro parent
    apply Answers.sequence (.fetch (Fetch.compareAndSet_answers here _ _))
    intro version
    apply Answers.sequence
    · unfold dismissStream
      split
      · intro reply candid
        cases reply with
        | ok version => exact True.intro
        | error failure =>
          intro reply _
          have blamed := candid.widen around
          cases reply <;> exact blamed
      · exact True.intro
    · exact fun _ => True.intro
  · exact blames_onStream _ _
  · exact True.intro

end Streams

end Lifecycle

namespace Operation

open Lifecycle

/-- An operation blames the store for keys that it is about, once its names have been checked. -/
theorem plan_answers (settings : Settings) (operation : Operation) :
    (operation.plan settings).run.Answers
      (Blames Error.failure? fun key => operation.Targets key ∧ key.Addressable) := by
  unfold plan
  cases checked : operation.check settings with
  | error error =>
    intro failure key same
    cases Error.failure?_eq_some same
    exact absurd checked (check_ne_store operation)
  | ok valid =>
    have placed : Key.Addressable (.scope operation.scope) :=
      ⟨settings.maxNameLength, (fits_of_check checked).1⟩
    cases operation with
    | createScope name => exact createScope_answers ⟨.inl rfl, placed⟩
    | deleteScope name => exact deleteScope_answers ⟨.inl rfl, placed⟩
    | createStream stream config =>
      exact createStream_answers _ ⟨.inr ⟨stream, rfl, rfl⟩, placed⟩ ⟨.inl rfl, placed⟩ config
    | updateStream stream config =>
      exact updateStream_answers _ ⟨.inr ⟨stream, rfl, rfl⟩, placed⟩ config
    | sealStream stream => exact sealStream_answers _ ⟨.inr ⟨stream, rfl, rfl⟩, placed⟩
    | deleteStream stream =>
      exact deleteStream_answers _ ⟨.inr ⟨stream, rfl, rfl⟩, placed⟩ ⟨.inl rfl, placed⟩

end Operation

namespace Query

open Lookup Plan

def stream? : Query → Option StreamId
  | streamExists stream | streamInfo stream | streamIsActive stream => some stream
  | scopeExists _ | scopeIsEmpty _ | scopes | streams _ => none

def Concerns (query : Query) : Key → Prop
  | .scope _ => True
  | .stream id => query.stream? = some id

theorem listStreams_answers (name : String) :
    (listStreams name).run.Answers (Blames Error.failure? (Concerns (.streams name))) := by
  have named : Concerns (.streams name) (.scope name) := True.intro
  apply Answers.sequence (.fetch (scopeRecord_answers named))
  intro current
  split
  · exact True.intro
  · exact .of_none rfl

theorem plan_answers (query : Query) :
    query.plan.run.Answers (Blames Error.failure? query.Concerns) := by
  cases query with
  | scopeExists name =>
    exact Answers.sequence (.fetch (scopeExists_answers True.intro)) fun _ => True.intro
  | scopeIsEmpty name =>
    exact Answers.sequence (.fetch (scopeIsEmpty_answers True.intro)) fun _ => True.intro
  | scopes =>
    exact Answers.sequence (.fetch (scopes_answers fun _ => True.intro)) fun _ => True.intro
  | streams name => exact Answers.sequence (listStreams_answers name) fun _ => True.intro
  | streamExists stream =>
    exact Answers.sequence (.fetch (streamExists_answers rfl)) fun _ => True.intro
  | streamInfo stream =>
    exact Answers.sequence (.fetch (streamInfo_answers rfl)) fun _ => True.intro
  | streamIsActive stream =>
    exact Answers.sequence (.fetch (streamIsActive_answers rfl)) fun _ => True.intro

end Query

/-- The text of a key tells which key it is, if the name of its scope is one that is accepted. So
    does the text that comes with a failure of the store in an operation, and in a question unless
    this is about a stream of a scope that cannot be. -/
theorem displayed_keys_are_unambiguous {service : Service σ} (candid : service.Candid) :
    (∀ key : Key, key.Addressable → Key.ofText? key.display = some key) ∧
    (∀ first second : Key, first.Addressable → second.Addressable →
      first.display = second.display → first = second) ∧
    (∀ first second : StreamId, (Key.stream first).Addressable → (Key.stream second).Addressable →
      first.display = second.display → first = second) ∧
    (∀ (settings : Settings) (operation : Operation) (world : σ) (failure : StoreFailure)
        (text : String),
      ((operation.plan settings).run.run service world).1 = .error (.store failure) →
      failure.keyText? = some text →
      ∃ key : Key, operation.Targets key ∧ key.Addressable ∧ key.display = text ∧
        ∀ other : Key, other.Addressable → other.display = text → other = key) ∧
    ∀ (query : Query) (world : σ) (failure : StoreFailure) (text : String),
      (∀ stream, query.stream? = some stream → (Key.stream stream).Addressable) →
      (query.plan.run.run service world).1 = .error (.store failure) →
      failure.keyText? = some text →
      ∃ key : Key, query.Concerns key ∧ key.display = text ∧
        ∀ other : Key, other.Addressable → other.display = text → other = key := by
  refine ⟨fun key addressable => addressable.ofText?_display, ?_, ?_, ?_, ?_⟩
  · intro first second one other same
    exact Key.display_inj other.ofText?_display one same
  · intro first second one other same
    have texts : (Key.stream first).display = (Key.stream second).display := by
      rw [Key.display, Key.display, same]
    have keys := Key.display_inj other.ofText?_display one texts
    exact Key.stream.inj keys
  · intro settings operation world failure text failed named
    obtain ⟨key, has, rfl⟩ := Option.map_eq_some_iff.mp named
    have blamed := (operation.plan_answers settings).run candid world
    rw [failed] at blamed
    obtain ⟨target, addressable⟩ := blamed failure key rfl has
    refine ⟨key, target, addressable, rfl, ?_⟩
    exact fun other one same => Key.display_inj addressable.ofText?_display one same
  · intro query world failure text accepted failed named
    obtain ⟨key, has, rfl⟩ := Option.map_eq_some_iff.mp named
    have blamed := query.plan_answers.run candid world
    rw [failed] at blamed
    have concerned := blamed failure key rfl has
    have read : Key.ofText? key.display = some key := by
      cases key with
      | scope name => exact Key.ofText?_scope name
      | stream id => exact (accepted id concerned).ofText?_display
    exact ⟨key, concerned, rfl, fun other one same => Key.display_inj read one same⟩

namespace FaultyStore

theorem write_candid (world : FaultyStore) (key : Key) (expected : Option Nat) (record : Record) :
    Blames some (· = key) (world.write key expected record).1 := by
  unfold write
  split
  · exact .unavailable _
  · split
    · exact True.intro
    · rename_i failure refused
      simp only [Store.compareAndSet] at refused
      split at refused
      · cases refused
      · cases refused
        rintro _ other ⟨⟩ ⟨⟩
        rfl

theorem answer_candid (world : FaultyStore) (value : Store → α) (allowed : Key → Prop) :
    Blames some allowed (world.answer value) := by
  unfold answer
  split
  · exact .unavailable _
  · exact True.intro

theorem service_candid : service.Candid := by
  constructor
  · intro key world
    simp only [service, get]
    split
    · exact .unavailable _
    · exact True.intro
    · dsimp only
      apply answer_candid
  · intro key expected record world
    simp only [service, compareAndSet]
    split
    · exact .unavailable _
    · exact write_candid _ _ _ _
    · exact write_candid _ _ _ _
  · intro world
    simp only [service, scopeNames]
    split
    · exact .unavailable _
    · dsimp only
      apply answer_candid

end FaultyStore

def racyStore : FaultyStore where
  store := ((Store.empty.write (.scope "s" (ScopeRecord.fresh.enroll "a"))).write
    (.stream ⟨"s", "a"⟩ (.initial {})))
  faults := [{ kind := .compareAndSet, effect := .race }]

theorem displayed_keys_are_unambiguous_after_lost_race :
    (((Operation.sealStream ⟨"s", "a"⟩).plan {}).run.run FaultyStore.service racyStore).1 =
      .error (.store (.versionMismatch (.stream ⟨"s", "a"⟩) (some 1) (some 2))) ∧
    Key.ofText? "stream:s/a" = some (.stream ⟨"s", "a"⟩) ∧
    ∀ other : Key, other.Addressable → other.display = "stream:s/a" →
      other = .stream ⟨"s", "a"⟩ := by
  have failed : (((Operation.sealStream ⟨"s", "a"⟩).plan {}).run.run FaultyStore.service
      racyStore).1 =
      .error (.store (.versionMismatch (.stream ⟨"s", "a"⟩) (some 1) (some 2))) := by rfl
  obtain ⟨read, -, -, operations, -⟩ := displayed_keys_are_unambiguous FaultyStore.service_candid
  obtain ⟨key, -, addressable, text, only⟩ := operations _ _ _ _ "stream:s/a" failed rfl
  have scope : (Key.stream ⟨"s", "a"⟩).Addressable := ⟨1, rfl⟩
  have same : Key.stream ⟨"s", "a"⟩ = key := only _ scope rfl
  subst same
  exact ⟨failed, read _ scope, only⟩

end StreamCatalog
