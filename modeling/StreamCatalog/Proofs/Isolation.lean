import Mathlib.Data.List.Forall2
import StreamCatalog.Proofs.Segments
import StreamCatalog.Proofs.SessionSteps
import StreamCatalog.Proofs.Traffic

namespace StreamCatalog

theorem Writer.place_congr (hash : String → UInt64) (writer : Writer) {whole part : EventStore}
    (same : part.segments writer.incarnation = whole.segments writer.incarnation)
    (routingKey : String) (event : Payload) :
    (writer.place hash part routingKey event).1 = (writer.place hash whole routingKey event).1 ∧
      (writer.place hash part routingKey event).2.1 =
        (writer.place hash whole routingKey event).2.1 := by
  have read (segment : Nat) :
      part.read writer.incarnation segment = whole.read writer.incarnation segment := by
    rw [EventStore.read, EventStore.read, same]
  simp only [place, EventStore.append, read, and_self]

theorem Writer.puts_place (hash : String → UInt64) (writer : Writer) (record : StreamRecord)
    (events : EventStore) (routingKey : String) (event : Payload) :
    writer.Puts events event
      ((writer.refreshed record).place hash events routingKey event) :=
  puts_of_refreshed rfl

theorem Store.answer_congr {whole part : Store} (wholeFiled : whole.Filed) (partFiled : part.Filed)
    {query : Query} {scope : String} (about : query.scope? = some scope)
    (same : ∀ key : Key, key.owner = scope → part.get key = whole.get key) :
    part.answer query = whole.answer query := by
  have agree := (query.plan_within about).agree same
  rw [partFiled.run_query, wholeFiled.run_query] at agree
  exact agree.1

theorem Store.operate_congr {whole part : Store} (settings : Settings) {operation : Operation}
    (same : ∀ key : Key, key.owner = operation.scope → part.get key = whole.get key) :
    (part.operate settings operation).1 = (whole.operate settings operation).1 ∧
      ∀ key : Key, key.owner = operation.scope →
        (part.operate settings operation).2.get key =
          (whole.operate settings operation).2.get key :=
  (operation.plan_within settings).agree same

namespace Session

namespace Step

/-- The calls that controllers and clients make, where events are only put by writers. -/
def Plain : Step → Prop
  | .lifecycle _ _ | .query _ | .openWriter _ _ _ | .write _ _ _ | .isStale _ | .read _ _ _
  | .countEvents _ _ | .usedSegments _ _ => True
  | _ => False

/-- The scope that a step is addressed to. The name of a writer stands for the scope in which the
    writer was opened. -/
def scope? (session : Session) : Step → Option String
  | .lifecycle _ operation => some operation.scope
  | .query asked => asked.scope?
  | .openWriter _ _ stream => some stream.scope
  | .write name _ _ | .isStale name => (session.writer? name).map (·.writer.stream.scope)
  | .read _ incarnation _ | .countEvents _ incarnation | .usedSegments _ incarnation =>
    some incarnation.stream.scope
  | _ => none

end Step

namespace Orderly

variable {session : Session} (orderly : session.Orderly)

include orderly

theorem update_world_controllers {world : FaultyStore} (calm : world.Calm)
    (filed : world.store.Filed) (controllers : Array Controller) :
    ({ session with world, controllers } : Session).Orderly :=
  ⟨calm, filed, orderly.bounded, orderly.apart⟩

omit orderly in
theorem handles_withOpened (name other : String) (opened : OpenWriter) :
    (session.withOpened name opened).handles[other]? =
      if name = other then some session.path.writers.size else session.handles[other]? := by
  simp [Session.withOpened, Std.ExtTreeMap.getElem?_insert]

omit orderly in
theorem handle_of_writer? {name : String} {opened : OpenWriter}
    (named : session.writer? name = some opened) :
    ∃ handle, session.handles[name]? = some handle ∧
      session.path.writers[handle]? = some opened :=
  Option.bind_eq_some_iff.mp named

theorem unbound_of_writer? {name : String} (nameless : session.writer? name = none) :
    session.handles[name]? = none := by
  cases bound : session.handles[name]? with
  | none => rfl
  | some handle =>
    have inside := orderly.bounded name handle bound
    simp [writer?, bound, Array.getElem?_eq_getElem inside] at nameless

theorem withOpened (name : String) (opened : OpenWriter) :
    (session.withOpened name opened).Orderly := by
  refine ⟨orderly.calm, orderly.filed, fun other handle bound => ?_,
    fun one two handle first second => ?_⟩
  · have size : (session.withOpened name opened).path.writers.size =
        session.path.writers.size + 1 := Array.size_push _
    rw [handles_withOpened] at bound
    split at bound
    · cases bound
      omega
    · have inside := orderly.bounded other handle bound
      omega
  · rw [handles_withOpened] at first second
    split at first
    · split at second
      · simp_all
      · cases first
        exact absurd (orderly.bounded two _ second) (Nat.lt_irrefl _)
    · split at second
      · cases second
        exact absurd (orderly.bounded one _ first) (Nat.lt_irrefl _)
      · exact orderly.apart one two handle first second

theorem withWrite (handle client : Nat) (placed : Position × Writer × EventStore) :
    (session.withWrite handle client placed).Orderly := by
  refine ⟨orderly.calm, orderly.filed, fun name other bound => ?_, orderly.apart⟩
  have size : (session.withWrite handle client placed).path.writers.size =
      session.path.writers.size := Array.size_setIfInBounds
  have inside := orderly.bounded name other bound
  omega

theorem writer?_withOpened (name other : String) (opened : OpenWriter) :
    (session.withOpened name opened).writer? other =
      if name = other then some opened else session.writer? other := by
  have writers (handle : Nat) : (session.withOpened name opened).path.writers[handle]? =
      if handle = session.path.writers.size then some opened
      else session.path.writers[handle]? := session.path.writers_addWriter opened handle
  rw [writer?, handles_withOpened]
  by_cases here : name = other
  · rw [if_pos here, if_pos here, Option.bind_some, writers, if_pos rfl]
  · rw [if_neg here, if_neg here, writer?]
    cases bound : session.handles[other]? with
    | none => rfl
    | some handle =>
      have inside := orderly.bounded other handle bound
      simp [writers, Nat.ne_of_lt inside]

theorem writer?_withWrite {name : String} {handle : Nat} {writing : OpenWriter}
    (bound : session.handles[name]? = some handle)
    (known : session.path.writers[handle]? = some writing) (client : Nat)
    (placed : Position × Writer × EventStore) (other : String) :
    (session.withWrite handle client placed).writer? other =
      if name = other then some ⟨client, placed.2.1⟩ else session.writer? other := by
  have writers (place : Nat) := DataPath.writers_keepWrite known client place placed
  have unchanged : (session.withWrite handle client placed).handles = session.handles := rfl
  rw [writer?, unchanged, writer?]
  by_cases here : name = other
  · subst here
    simp [bound, Session.withWrite, writers]
  · rw [if_neg here]
    cases elsewhere : session.handles[other]? with
    | none => rfl
    | some place =>
      have different : handle ≠ place := by
        rintro rfl
        exact here (orderly.apart name other handle bound elsewhere)
      simp [Session.withWrite, writers, different]

end Orderly

/-- Two sessions that cannot be told apart by looking at one scope. A name may stand for a writer of
    that scope in `part` where it has been taken over by one of another scope in `whole`. -/
structure Alike (scope : String) (whole part : Session) : Prop where
  wholeOrderly : whole.Orderly
  partOrderly : part.Orderly
  settings : ∀ index, (part.controller index).settings = (whole.controller index).settings
  records : ∀ key : Key, key.owner = scope → part.world.store.get key = whole.world.store.get key
  segments : ∀ client incarnation, incarnation.stream.scope = scope →
    (part.path.events client).segments incarnation =
      (whole.path.events client).segments incarnation
  nameless : ∀ name, whole.writer? name = none → part.writer? name = none
  named : ∀ name opened, whole.writer? name = some opened →
    opened.writer.stream.scope = scope → part.writer? name = some opened

namespace Alike

variable {scope : String} {whole part : Session} (alike : Alike scope whole part)

include alike

theorem stream? {stream : StreamId} (here : stream.scope = scope) :
    part.world.store.stream? stream = whole.world.store.stream? stream :=
  Store.stream?_eq_of_get (alike.records (.stream stream) here)

theorem update_world_controllers {wholeWorld partWorld : FaultyStore}
    {wholeControllers partControllers : Array Controller}
    (wholeCalm : wholeWorld.Calm) (wholeFiled : wholeWorld.store.Filed)
    (partCalm : partWorld.Calm) (partFiled : partWorld.store.Filed)
    (wholeSettings : ∀ index,
      (wholeControllers.getD index {}).settings = (whole.controller index).settings)
    (partSettings : ∀ index,
      (partControllers.getD index {}).settings = (part.controller index).settings)
    (records : ∀ key : Key, key.owner = scope →
      partWorld.store.get key = wholeWorld.store.get key) :
    Alike scope { whole with world := wholeWorld, controllers := wholeControllers }
      { part with world := partWorld, controllers := partControllers } where
  wholeOrderly := alike.wholeOrderly.update_world_controllers wholeCalm wholeFiled wholeControllers
  partOrderly := alike.partOrderly.update_world_controllers partCalm partFiled partControllers
  settings index := by
    have same := alike.settings index
    rw [← wholeSettings, ← partSettings] at same
    exact same
  records := records
  segments := alike.segments
  nameless := alike.nameless
  named := alike.named

theorem update_whole_world {world : FaultyStore} (calm : world.Calm)
    (same : world.store = whole.world.store) : Alike scope { whole with world } part :=
  alike.update_world_controllers calm (same ▸ alike.wholeOrderly.filed) alike.partOrderly.calm
    alike.partOrderly.filed (fun _ => rfl) (fun _ => rfl) (same ▸ alike.records)

theorem update_both_worlds {world other : FaultyStore} (calm : world.Calm)
    (same : world.store = whole.world.store) (otherCalm : other.Calm)
    (otherSame : other.store = part.world.store) :
    Alike scope { whole with world } { part with world := other } :=
  alike.update_world_controllers calm (same ▸ alike.wholeOrderly.filed) otherCalm
    (otherSame ▸ alike.partOrderly.filed) (fun _ => rfl) (fun _ => rfl)
    (same ▸ otherSame ▸ alike.records)

theorem withOpened_whole {opened : OpenWriter} (different : opened.writer.stream.scope ≠ scope)
    (name : String) : Alike scope (whole.withOpened name opened) part where
  wholeOrderly := alike.wholeOrderly.withOpened name opened
  partOrderly := alike.partOrderly
  settings := alike.settings
  records := alike.records
  segments := alike.segments
  nameless other none := by
    rw [alike.wholeOrderly.writer?_withOpened] at none
    split at none
    · cases none
    · exact alike.nameless other none
  named other found present here := by
    rw [alike.wholeOrderly.writer?_withOpened] at present
    split at present
    · cases present
      exact absurd here different
    · exact alike.named other found present here

theorem withOpened_both (name : String) (opened : OpenWriter) :
    Alike scope (whole.withOpened name opened) (part.withOpened name opened) where
  wholeOrderly := alike.wholeOrderly.withOpened name opened
  partOrderly := alike.partOrderly.withOpened name opened
  settings := alike.settings
  records := alike.records
  segments := alike.segments
  nameless other none := by
    rw [alike.wholeOrderly.writer?_withOpened] at none
    rw [alike.partOrderly.writer?_withOpened]
    split at none
    · cases none
    · rename_i elsewhere
      rw [if_neg elsewhere]
      exact alike.nameless other none
  named other found present here := by
    rw [alike.wholeOrderly.writer?_withOpened] at present
    rw [alike.partOrderly.writer?_withOpened]
    split at present
    · rename_i same
      rw [if_pos same, present]
    · rename_i elsewhere
      rw [if_neg elsewhere]
      exact alike.named other found present here

omit alike in
theorem segments_withWrite {session : Session} {writing : OpenWriter} {event : Payload}
    {placed : Position × Writer × EventStore}
    (puts : writing.writer.Puts (session.path.events writing.client) event placed)
    (handle client : Nat) (incarnation : Incarnation) :
    ((session.withWrite handle writing.client placed).path.events client).segments incarnation =
      if writing.client = client ∧ writing.writer.incarnation = incarnation then
        ((session.path.events client).segments incarnation).insert placed.1.segment
          (((session.path.events client).read incarnation placed.1.segment).push event)
      else (session.path.events client).segments incarnation := by
  have events := session.path.events_keepWrite handle writing.client client placed
  rw [Session.withWrite, events]
  by_cases here : writing.client = client
  · subst here
    simp [puts.events, EventStore.segments_append]
  · simp [here]

section Write

variable {name : String} {handle : Nat} {writing : OpenWriter} {event : Payload}
  {placed : Position × Writer × EventStore} (bound : whole.handles[name]? = some handle)
  (known : whole.path.writers[handle]? = some writing)
  (puts : writing.writer.Puts (whole.path.events writing.client) event placed)

include bound known puts

theorem withWrite_whole (different : writing.writer.stream.scope ≠ scope) :
    Alike scope (whole.withWrite handle writing.client placed) part where
  wholeOrderly := alike.wholeOrderly.withWrite handle writing.client placed
  partOrderly := alike.partOrderly
  settings := alike.settings
  records := alike.records
  segments client incarnation here := by
    have other : writing.writer.incarnation ≠ incarnation := by
      rintro rfl
      exact different here
    rw [segments_withWrite puts, if_neg fun both => other both.2]
    exact alike.segments client incarnation here
  nameless other none := by
    rw [alike.wholeOrderly.writer?_withWrite bound known] at none
    split at none
    · cases none
    · exact alike.nameless other none
  named other found present here := by
    rw [alike.wholeOrderly.writer?_withWrite bound known] at present
    split at present
    · cases present
      have same : placed.2.1.stream = writing.writer.stream :=
        congrArg Incarnation.stream puts.incarnation
      rw [same] at here
      exact absurd here different
    · exact alike.named other found present here

theorem withWrite_both {place : Nat} {putIn : Position × Writer × EventStore}
    (partBound : part.handles[name]? = some place)
    (partKnown : part.path.writers[place]? = some writing)
    (partPuts : writing.writer.Puts (part.path.events writing.client) event putIn)
    (position : putIn.1 = placed.1) (writer : putIn.2.1 = placed.2.1) :
    Alike scope (whole.withWrite handle writing.client placed)
      (part.withWrite place writing.client putIn) where
  wholeOrderly := alike.wholeOrderly.withWrite handle writing.client placed
  partOrderly := alike.partOrderly.withWrite place writing.client putIn
  settings := alike.settings
  records := alike.records
  segments client incarnation here := by
    have same := alike.segments client incarnation here
    rw [segments_withWrite puts, segments_withWrite partPuts, position, EventStore.read,
      EventStore.read, same]
  nameless other none := by
    rw [alike.wholeOrderly.writer?_withWrite bound known] at none
    rw [alike.partOrderly.writer?_withWrite partBound partKnown]
    split at none
    · cases none
    · rename_i elsewhere
      rw [if_neg elsewhere]
      exact alike.nameless other none
  named other found present here := by
    rw [alike.wholeOrderly.writer?_withWrite bound known] at present
    rw [alike.partOrderly.writer?_withWrite partBound partKnown, writer]
    split at present
    · rename_i same
      rw [if_pos same, present]
    · rename_i elsewhere
      rw [if_neg elsewhere]
      exact alike.named other found present here

end Write

section Whole

variable (hash : String → UInt64)

theorem perform_whole_lifecycle (index : Nat) {operation : Operation}
    (different : operation.scope ≠ scope) :
    Alike scope (whole.perform hash (.lifecycle index operation)).2 part := by
  have within := operation.plan_within (whole.controller index).settings
  obtain ⟨world, controllers, calm, ran, settings, done⟩ :=
    operate_eq alike.wholeOrderly.calm index operation
  simp only [perform, done]
  refine alike.update_world_controllers calm (ran ▸ within.filed alike.wholeOrderly.filed)
    alike.partOrderly.calm alike.partOrderly.filed settings (fun _ => rfl) fun key here => ?_
  have outside : key.owner ≠ operation.scope := fun same => different (same.symm.trans here)
  rw [ran, Store.operate, within.frame _ outside]
  exact alike.records key here

theorem perform_whole_openWriter (client : Nat) (name : String) {stream : StreamId}
    (different : stream.scope ≠ scope) :
    Alike scope (whole.perform hash (.openWriter client name stream)).2 part := by
  by_cases live : ∃ record, whole.world.store.stream? stream = some record ∧
      record.state = .active
  · obtain ⟨record, found, active⟩ := live
    obtain ⟨world, calm, same, done⟩ :=
      perform_openWriter_active hash alike.wholeOrderly found active client name
    rw [done]
    exact (alike.withOpened_whole different name).update_whole_world calm same
  · obtain ⟨world, calm, same, done⟩ := perform_openWriter_inactive hash alike.wholeOrderly
      (fun record found active => live ⟨record, found, active⟩) client name
    rw [done]
    exact alike.update_whole_world calm same

theorem perform_whole_write {name : String} {writing : OpenWriter}
    (present : whole.writer? name = some writing) (different : writing.writer.stream.scope ≠ scope)
    (routingKey : String) (event : Payload) :
    Alike scope (whole.perform hash (.write name routingKey event)).2 part := by
  obtain ⟨handle, bound, known⟩ := Orderly.handle_of_writer? present
  obtain ⟨world, calm, same, done⟩ :=
    perform_write hash alike.wholeOrderly bound known routingKey event
  rw [done]
  cases writing.writer.admission none (whole.world.store.stream? writing.writer.stream) with
  | error failure => exact alike.update_whole_world calm same
  | ok record =>
    have puts := writing.writer.puts_place hash record (whole.path.events writing.client)
      routingKey event
    exact (alike.withWrite_whole bound known puts different).update_whole_world calm same

theorem perform_whole {step : Step} (plain : step.Plain) {other : String}
    (addressed : step.scope? whole = some other) (different : other ≠ scope) :
    Alike scope (whole.perform hash step).2 part := by
  cases step with
  | lifecycle index operation =>
    cases addressed
    exact alike.perform_whole_lifecycle hash index different
  | query asked =>
    obtain ⟨world, calm, same, done⟩ := perform_query hash alike.wholeOrderly addressed
    rw [done]
    exact alike.update_whole_world calm same
  | openWriter client name stream =>
    cases addressed
    exact alike.perform_whole_openWriter hash client name different
  | write name routingKey event =>
    obtain ⟨writing, present, rfl⟩ := Option.map_eq_some_iff.mp addressed
    exact alike.perform_whole_write hash present different routingKey event
  | isStale name =>
    obtain ⟨opened, present, rfl⟩ := Option.map_eq_some_iff.mp addressed
    obtain ⟨handle, bound, known⟩ := Orderly.handle_of_writer? present
    obtain ⟨world, calm, same, done⟩ := perform_isStale hash alike.wholeOrderly bound known
    rw [done]
    exact alike.update_whole_world calm same
  | read client incarnation segment => exact alike
  | countEvents client incarnation => exact alike
  | usedSegments client incarnation => exact alike
  | _ => exact False.elim plain

end Whole

end Alike

structure Taken where
  step : Step
  scope : Option String
  outcome : Outcome

namespace Taken

def concerns (scope : String) (taken : Taken) : Bool := taken.scope.all (· = scope)

theorem concerns_iff (scope : String) (taken : Taken) :
    taken.concerns scope = true ↔ ∀ other, taken.scope = some other → other = scope := by
  simp [concerns, Option.all_eq_true]

/-- The same step had the same outcome. The list of all scopes is only looked at for this one. -/
def Agrees (scope : String) (whole part : Taken) : Prop :=
  part.step = whole.step ∧ match whole.step with
    | .query .scopes => ∃ names others, whole.outcome = .call (.query (.ok (.names names))) ∧
        part.outcome = .call (.query (.ok (.names others))) ∧ (scope ∈ others ↔ scope ∈ names)
    | _ => part.outcome = whole.outcome

theorem Agrees.of_eq {scope : String} {whole part : Taken} (step : part.step = whole.step)
    (outcome : part.outcome = whole.outcome) (specific : whole.step ≠ .query .scopes) :
    Agrees scope whole part := by
  refine ⟨step, ?_⟩
  split
  · rename_i listing
    exact absurd listing specific
  · exact outcome

end Taken

def take (hash : String → UInt64) (session : Session) (step : Step) : Taken × Session :=
  let done := session.perform hash step
  (⟨step, step.scope? session, done.1⟩, done.2)

def takeAll (hash : String → UInt64) : List Step → Session → List Taken × Session
  | [], session => ([], session)
  | step :: rest, session =>
    let first := session.take hash step
    let others := takeAll hash rest first.2
    (first.1 :: others.1, others.2)

/-- Two sessions make a step with the same outcome, and are alike after it. -/
def KeepPace (hash : String → UInt64) (scope : String) (step : Step)
    (whole part : Session) : Prop :=
  (whole.take hash step).1.Agrees scope (part.take hash step).1 ∧
    Alike scope (whole.take hash step).2 (part.take hash step).2

namespace Alike

variable (hash : String → UInt64) {scope : String} {whole part : Session}
  (alike : Alike scope whole part)

include alike

theorem keepPace_lifecycle (index : Nat) {operation : Operation}
    (addressed : operation.scope = scope) :
    KeepPace hash scope (.lifecycle index operation) whole part := by
  subst addressed
  have wholeOrderly := alike.wholeOrderly
  have partOrderly := alike.partOrderly
  have within := operation.plan_within (whole.controller index).settings
  have agree := Store.operate_congr (whole.controller index).settings alike.records
  obtain ⟨world, controllers, calm, ran, settings, done⟩ :=
    operate_eq wholeOrderly.calm index operation
  obtain ⟨partWorld, partControllers, partCalm, partRan, partSettings, partDone⟩ :=
    operate_eq partOrderly.calm index operation
  rw [alike.settings] at partRan partDone
  simp only [KeepPace, take, perform, done, partDone]
  refine ⟨.of_eq rfl (by simp only [agree.1]) (by simp), ?_⟩
  refine alike.update_world_controllers calm (ran ▸ within.filed wholeOrderly.filed) partCalm
    (partRan ▸ within.filed partOrderly.filed) settings partSettings fun key here => ?_
  rw [ran, partRan]
  exact agree.2 key here

theorem keepPace_query {query : Query} (about : query.scope? = some scope) :
    KeepPace hash scope (.query query) whole part := by
  have answers := Store.answer_congr alike.wholeOrderly.filed alike.partOrderly.filed about
    alike.records
  obtain ⟨world, calm, same, done⟩ := perform_query hash alike.wholeOrderly about
  obtain ⟨partWorld, partCalm, partSame, partDone⟩ := perform_query hash alike.partOrderly about
  simp only [KeepPace, take, done, partDone, answers]
  have specific : Step.query query ≠ .query .scopes := by
    rintro ⟨⟩
    cases about
  exact ⟨.of_eq rfl rfl specific, alike.update_both_worlds calm same partCalm partSame⟩

theorem keepPace_scopes : KeepPace hash scope (.query .scopes) whole part := by
  obtain ⟨world, names, calm, same, listed, done⟩ := perform_scopes hash alike.wholeOrderly
  obtain ⟨partWorld, others, partCalm, partSame, partListed, partDone⟩ :=
    perform_scopes hash alike.partOrderly
  have record := Store.scope?_eq_of_get (alike.records (.scope scope) rfl)
  simp only [KeepPace, take, done, partDone]
  refine ⟨⟨rfl, names, others, rfl, rfl, ?_⟩,
    alike.update_both_worlds calm same partCalm partSame⟩
  rw [listed, partListed, Store.mem_activeScopes, Store.mem_activeScopes, record]

theorem keepPace_openWriter (client : Nat) (name : String) {stream : StreamId}
    (addressed : stream.scope = scope) :
    KeepPace hash scope (.openWriter client name stream) whole part := by
  have sight := alike.stream? addressed
  by_cases live : ∃ record, whole.world.store.stream? stream = some record ∧
      record.state = .active
  · obtain ⟨record, found, active⟩ := live
    obtain ⟨world, calm, same, done⟩ :=
      perform_openWriter_active hash alike.wholeOrderly found active client name
    obtain ⟨partWorld, partCalm, partSame, partDone⟩ :=
      perform_openWriter_active hash alike.partOrderly (sight.trans found) active client name
    simp only [KeepPace, take, done, partDone]
    refine ⟨.of_eq rfl rfl (by simp), ?_⟩
    exact (alike.withOpened_both name _).update_both_worlds calm same partCalm partSame
  · have closed (record : StreamRecord) (found : whole.world.store.stream? stream = some record) :
        record.state ≠ .active := fun active => live ⟨record, found, active⟩
    obtain ⟨world, calm, same, done⟩ :=
      perform_openWriter_inactive hash alike.wholeOrderly closed client name
    obtain ⟨partWorld, partCalm, partSame, partDone⟩ :=
      perform_openWriter_inactive hash alike.partOrderly (sight ▸ closed) client name
    simp only [KeepPace, take, done, partDone]
    exact ⟨.of_eq rfl rfl (by simp), alike.update_both_worlds calm same partCalm partSame⟩

theorem keepPace_of_unchanged {step : Step} {reply : Reply}
    (done : whole.perform hash step = (.call reply, whole))
    (partDone : part.perform hash step = (.call reply, part))
    (specific : step ≠ .query .scopes) : KeepPace hash scope step whole part := by
  simp only [KeepPace, take, done, partDone]
  exact ⟨.of_eq rfl rfl specific, alike⟩

theorem keepPace_write {name : String} {writing : OpenWriter}
    (present : whole.writer? name = some writing) (addressed : writing.writer.stream.scope = scope)
    (routingKey : String) (event : Payload) :
    KeepPace hash scope (.write name routingKey event) whole part := by
  have sight := alike.stream? addressed
  obtain ⟨handle, bound, known⟩ := Orderly.handle_of_writer? present
  obtain ⟨place, partBound, partKnown⟩ :=
    Orderly.handle_of_writer? (alike.named name writing present addressed)
  obtain ⟨world, calm, same, done⟩ :=
    perform_write hash alike.wholeOrderly bound known routingKey event
  obtain ⟨partWorld, partCalm, partSame, partDone⟩ :=
    perform_write hash alike.partOrderly partBound partKnown routingKey event
  simp only [KeepPace, take, done, partDone, sight]
  cases admitted : writing.writer.admission none
      (whole.world.store.stream? writing.writer.stream) with
  | error failure =>
    exact ⟨.of_eq rfl rfl (by simp), alike.update_both_worlds calm same partCalm partSame⟩
  | ok record =>
    have puts := writing.writer.puts_place hash record (whole.path.events writing.client)
      routingKey event
    have partPuts := writing.writer.puts_place hash record (part.path.events writing.client)
      routingKey event
    have stream : (writing.writer.refreshed record).incarnation = writing.writer.incarnation :=
      puts.incarnation
    have events := alike.segments writing.client (writing.writer.refreshed record).incarnation
      (by rw [stream]; exact addressed)
    obtain ⟨position, writer⟩ := Writer.place_congr hash _ events routingKey event
    refine ⟨.of_eq rfl (by simp only [position]) (by simp), ?_⟩
    have after := alike.withWrite_both bound known puts partBound partKnown partPuts position writer
    exact after.update_both_worlds calm same partCalm partSame

theorem keepPace_isStale {name : String} {opened : OpenWriter}
    (present : whole.writer? name = some opened) (addressed : opened.writer.stream.scope = scope) :
    KeepPace hash scope (.isStale name) whole part := by
  have sight := alike.stream? addressed
  obtain ⟨handle, bound, known⟩ := Orderly.handle_of_writer? present
  obtain ⟨place, partBound, partKnown⟩ :=
    Orderly.handle_of_writer? (alike.named name opened present addressed)
  obtain ⟨world, calm, same, done⟩ := perform_isStale hash alike.wholeOrderly bound known
  obtain ⟨partWorld, partCalm, partSame, partDone⟩ :=
    perform_isStale hash alike.partOrderly partBound partKnown
  simp only [KeepPace, take, done, partDone, sight]
  exact ⟨.of_eq rfl rfl (by simp), alike.update_both_worlds calm same partCalm partSame⟩

theorem keepPace {step : Step} (plain : step.Plain)
    (addressed : ∀ other, step.scope? whole = some other → other = scope) :
    KeepPace hash scope step whole part := by
  cases step with
  | lifecycle index operation => exact alike.keepPace_lifecycle hash index (addressed _ rfl)
  | query query =>
    cases about : query.scope? with
    | some other =>
      cases addressed other about
      exact alike.keepPace_query hash about
    | none =>
      cases query with
      | scopes => exact alike.keepPace_scopes hash
      | _ => cases about
  | openWriter client name stream =>
    exact alike.keepPace_openWriter hash client name (addressed _ rfl)
  | write name routingKey event =>
    cases present : whole.writer? name with
    | none =>
      have unbound := alike.wholeOrderly.unbound_of_writer? present
      have partUnbound := alike.partOrderly.unbound_of_writer? (alike.nameless name present)
      exact alike.keepPace_of_unchanged hash (withWriter_unbound hash unbound _)
        (withWriter_unbound hash partUnbound _) (by simp)
    | some writing =>
      have target := addressed writing.writer.stream.scope (by simp [Step.scope?, present])
      exact alike.keepPace_write hash present target routingKey event
  | isStale name =>
    cases present : whole.writer? name with
    | none =>
      have unbound := alike.wholeOrderly.unbound_of_writer? present
      have partUnbound := alike.partOrderly.unbound_of_writer? (alike.nameless name present)
      exact alike.keepPace_of_unchanged hash (withWriter_unbound hash unbound _)
        (withWriter_unbound hash partUnbound _) (by simp)
    | some opened =>
      have target := addressed opened.writer.stream.scope (by simp [Step.scope?, present])
      exact alike.keepPace_isStale hash present target
  | read client incarnation segment =>
    have same : (part.path.events client).read incarnation segment =
        (whole.path.events client).read incarnation segment := by
      rw [EventStore.read, EventStore.read, alike.segments client incarnation (addressed _ rfl)]
    exact alike.keepPace_of_unchanged hash (perform_read ..) (by rw [perform_read, same]) (by simp)
  | countEvents client incarnation =>
    have same : (part.path.events client).count incarnation =
        (whole.path.events client).count incarnation := by
      rw [EventStore.count, EventStore.count, alike.segments client incarnation (addressed _ rfl)]
    exact alike.keepPace_of_unchanged hash (perform_countEvents ..)
      (by rw [perform_countEvents, same]) (by simp)
  | usedSegments client incarnation =>
    have same : (part.path.events client).usedSegments incarnation =
        (whole.path.events client).usedSegments incarnation := by
      rw [EventStore.usedSegments, EventStore.usedSegments,
        alike.segments client incarnation (addressed _ rfl)]
    exact alike.keepPace_of_unchanged hash (perform_usedSegments ..)
      (by rw [perform_usedSegments, same]) (by simp)
  | _ => exact False.elim plain

theorem takeAll {steps : List Step} (plain : ∀ step ∈ steps, step.Plain) :
    let taken := takeAll hash steps whole
    let kept := taken.1.filter (·.concerns scope)
    let alone := Session.takeAll hash (kept.map (·.step)) part
    List.Forall₂ (Taken.Agrees scope) kept alone.1 ∧ Alike scope taken.2 alone.2 := by
  induction steps generalizing whole part with
  | nil => exact ⟨.nil, alike⟩
  | cons step rest ih =>
    have first := plain step List.mem_cons_self
    have others := fun other member => plain other (List.mem_cons_of_mem step member)
    simp only [Session.takeAll, List.filter_cons]
    have concerns := Taken.concerns_iff scope (whole.take hash step).1
    by_cases away : ∃ other, step.scope? whole = some other ∧ other ≠ scope
    · -- The part does not make this step, and stays alike to what the whole is after it.
      obtain ⟨other, addressed, different⟩ := away
      rw [if_neg fun concerned => different (concerns.mp concerned other addressed)]
      exact ih (alike.perform_whole hash first addressed different) others
    · have here (other : String) (addressed : step.scope? whole = some other) : other = scope :=
        Classical.not_not.mp fun different => away ⟨other, addressed, different⟩
      obtain ⟨agrees, after⟩ := alike.keepPace hash first here
      obtain ⟨answers, final⟩ := ih after others
      rw [if_pos (concerns.mpr here)]
      exact ⟨.cons agrees answers, final⟩

end Alike

theorem Orderly.start (controllers : Array Controller) : ({ controllers } : Session).Orderly :=
  ⟨⟨rfl, rfl⟩, .empty, by simp, by simp⟩

theorem Alike.start (scope : String) (controllers : Array Controller) :
    Alike scope { controllers } { controllers } where
  wholeOrderly := .start controllers
  partOrderly := .start controllers
  settings _ := rfl
  records _ _ := rfl
  segments _ _ _ := rfl
  nameless _ none := none
  named _ _ present _ := present

/-- To leave out all steps that are addressed to other scopes changes nothing for a scope: neither
    what the remaining steps answer, nor its records and those of its streams, nor their events. -/
theorem scopes_are_isolated (hash : String → UInt64) (controllers : Array Controller)
    (steps : List Step) (plain : ∀ step ∈ steps, step.Plain) (scope : String) :
    let whole := takeAll hash steps { controllers }
    let kept := whole.1.filter (·.concerns scope)
    let part := takeAll hash (kept.map (·.step)) { controllers }
    List.Forall₂ (Taken.Agrees scope) kept part.1 ∧
      (∀ key : Key, key.owner = scope →
        part.2.world.store.get key = whole.2.world.store.get key) ∧
      ∀ client incarnation, incarnation.stream.scope = scope →
        (part.2.path.events client).segments incarnation =
          (whole.2.path.events client).segments incarnation := by
  obtain ⟨answers, final⟩ := (Alike.start scope controllers).takeAll hash plain
  exact ⟨answers, final.records, final.segments⟩

def twoScopes : List Step :=
  [.lifecycle 0 (.createScope "s"), .lifecycle 1 (.createScope "t"),
    .lifecycle 0 (.createStream ⟨"s", "a"⟩ {}), .lifecycle 1 (.createStream ⟨"t", "a"⟩ {}),
    .openWriter 0 "w" ⟨"s", "a"⟩, .write "w" "k" [1], .query (.streamExists ⟨"s/a", ""⟩),
    .openWriter 0 "w" ⟨"t", "a"⟩, .write "w" "k" [2], .query .scopes,
    .countEvents 0 ⟨⟨"s", "a"⟩, 0⟩, .openWriter 0 "w" ⟨"s/a", ""⟩]

theorem scopes_are_isolated_behind_one_name :
    let whole := takeAll (fun _ => 0) twoScopes { controllers := #[{}] }
    let kept := whole.1.filter (·.concerns "s")
    let part := takeAll (fun _ => 0) (kept.map (·.step)) { controllers := #[{}] }
    (∀ step ∈ twoScopes, step.Plain) ∧
      kept.map (·.step) =
        [.lifecycle 0 (.createScope "s"), .lifecycle 0 (.createStream ⟨"s", "a"⟩ {}),
          .openWriter 0 "w" ⟨"s", "a"⟩, .write "w" "k" [1], .query .scopes,
          .countEvents 0 ⟨⟨"s", "a"⟩, 0⟩] ∧
      List.Forall₂ (Taken.Agrees "s") kept part.1 ∧
      part.2.world.store.version? (.stream ⟨"s", "a"⟩) = some 1 ∧
      whole.2.world.store.version? (.stream ⟨"s", "a"⟩) = some 1 := by
  intro whole kept part
  have plain : ∀ step ∈ twoScopes, step.Plain := by simp [twoScopes, Step.Plain]
  obtain ⟨answers, records, -⟩ := scopes_are_isolated (fun _ => 0) #[{}] twoScopes plain "s"
  have written : whole.2.world.store.version? (.stream ⟨"s", "a"⟩) = some 1 := by rfl
  refine ⟨plain, by rfl, answers, ?_, written⟩
  rw [Store.version?, records (.stream ⟨"s", "a"⟩) rfl]
  exact written

end Session

end StreamCatalog
