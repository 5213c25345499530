import StreamCatalog.Hash.Text
import StreamCatalog.Proofs.Gains
import StreamCatalog.Proofs.Reference
import StreamCatalog.Proofs.Succession

namespace StreamCatalog

def Store.Segmented (store : Store) : Prop :=
  ∀ stream record, store.stream? stream = some record → 0 < record.config.segmentCount

theorem StreamConfig.segmentCount_pos {config : StreamConfig} (valid : config.check = .ok ()) :
    0 < config.segmentCount := by
  by_cases none : config.scaling.minSegments = 0
  · simp [StreamConfig.check, Scaling.check, none, bind, Except.bind] at valid
  · exact Nat.pos_of_ne_zero none

theorem Operation.config_of_check {settings : Settings} {operation : Operation}
    {config : StreamConfig} (valid : operation.check settings = .ok ())
    (asked : operation.config? = some config) : config.check = .ok () := by
  have faultless := fault?_eq_none.mpr valid
  apply StreamConfig.fault?_eq_none.mp
  cases operation <;> simp_all [config?, fault?, Option.or_eq_none_iff]

theorem Attempt.segmentCount_pos {attempt : Attempt} {store : Store} {config : StreamConfig}
    (done : (attempt.run store).1 = .ok true) (asked : attempt.operation.config? = some config) :
    0 < config.segmentCount := by
  cases checked : attempt.operation.check attempt.settings with
  | ok valid => exact StreamConfig.segmentCount_pos (Operation.config_of_check checked asked)
  | error error => cases (attempt.run_of_fault store checked).symm.trans done

namespace Store.Segmented

theorem empty : Segmented .empty := by simp [Segmented, Store.stream?]

theorem after {store : Store} (segmented : store.Segmented) (attempt : Attempt) :
    (attempt.after store).Segmented := by
  intro stream record found
  have move := attempt.move store stream
  rw [found] at move
  generalize before : store.stream? stream = current at move
  cases move with
  | kept idle => exact segmented stream record before
  | created asked done => exact Attempt.segmentCount_pos done (congrArg Operation.config? asked)
  | recreated asked done reusable =>
    exact Attempt.segmentCount_pos done (congrArg Operation.config? asked)
  | updated asked done => exact Attempt.segmentCount_pos done (congrArg Operation.config? asked)
  | sealed asked done => exact segmented stream ⟨.active, _, _, _⟩ before
  | deleted asked => exact segmented stream ⟨.sealed, _, _, _⟩ before

end Store.Segmented

theorem Step.segmented {hash : String → UInt64} {catalog later : Catalog} {call : Call}
    {reply : Reply} (step : Step hash catalog call reply later)
    (segmented : catalog.store.Segmented) : later.store.Segmented := by
  rcases step.store with same | ⟨attempt, -, -, same⟩
  · rwa [same]
  · rw [same]
    exact segmented.after attempt

namespace Writer

/-- Whether what a writer has in mind is what a record said that stood at some time, until now. -/
def Knows (store : Store) (writer : Writer) : Prop :=
  ∃ seen record : StreamRecord, store.stream? writer.stream = some record ∧ seen.Precedes record ∧
    seen.generation = writer.generation ∧ seen.epoch = writer.epoch ∧
    seen.config.segmentCount = writer.segmentCount

/-- A write that takes the number of segments from the record it has just looked up. -/
def writeAfresh (hash : String → UInt64) (writer : Writer) (events : EventStore)
    (routingKey : String) (event : Payload) : WriterAction (Position × Writer × EventStore) := do
  let record ← writer.current
  return (writer.reloaded record).place hash events routingKey event

variable {writer : Writer} {store : Store} {record : StreamRecord}

theorem refreshed_eq_reloaded (knows : writer.Knows store)
    (found : store.stream? writer.stream = some record)
    (same : record.generation = writer.generation) :
    writer.refreshed record = writer.reloaded record := by
  obtain ⟨seen, current, stands, precedes, generation, epoch, segments⟩ := knows
  cases found.symm.trans stands
  unfold refreshed reloaded
  split
  -- The epoch has not moved on, so neither has the configuration that the writer saw.
  · rename_i unchanged
    have config := precedes.config_eq (generation.trans same.symm) (epoch.trans unchanged.symm)
    rw [unchanged, ← config, segments]
  · rfl

end Writer

namespace DataPath

def writeAfresh (hash : String → UInt64) (path : DataPath) (handle : Nat) (routingKey : String)
    (event : Payload) : Plan (Reply × DataPath) := do
  let some opened := path.writers[handle]? | return (.noWriter, path)
  match ← (opened.writer.writeAfresh hash (path.events opened.client) routingKey event).run with
  | .ok placed => return (.written (.ok placed.1), path.keepWrite handle opened.client placed)
  | .error failure => return (.written (.error failure), path)

def performAfresh (hash : String → UInt64) (path : DataPath) : Call → Plan (Reply × DataPath)
  | .write handle routingKey event => path.writeAfresh hash handle routingKey event
  | call => path.perform hash call

end DataPath

namespace Turn

def runAfresh (hash : String → UInt64) (turn : Turn) (catalog : Catalog) : Reply × Catalog :=
  let done := (catalog.path.performAfresh hash turn.call).attempt turn.outages catalog.store
  (done.1.1, ⟨done.2.store, done.1.2⟩)

end Turn

namespace Writer

variable {writer : Writer} {store : Store} {record : StreamRecord}

theorem run_writeAfresh (outages : Outages) {world : UnsteadyStore} (filed : world.store.Filed)
    (hash : String → UInt64) (writer : Writer) (events : EventStore) (routingKey : String)
    (event : Payload) :
    (writer.writeAfresh hash events routingKey event).run.run (UnsteadyStore.service outages)
        world =
      ((writer.admission (outages world.calls) (world.store.stream? writer.stream)).map
        fun record => (writer.reloaded record).place hash events routingKey event, world.next) := by
  rw [writeAfresh, run_sequence, run_current outages filed]
  cases writer.admission (outages world.calls) (world.store.stream? writer.stream) <;> rfl

end Writer

def Catalog.Informed (catalog : Catalog) : Prop :=
  ∀ (handle : Nat) (opened : OpenWriter), catalog.path.writers[handle]? = some opened →
    opened.writer.Knows catalog.store

namespace Turn

variable (hash : String → UInt64) {catalog : Catalog}

theorem run_eq_runAfresh (turn : Turn) (filed : catalog.store.Filed) (informed : catalog.Informed) :
    turn.run hash catalog = turn.runAfresh hash catalog := by
  obtain ⟨call, outages⟩ := turn
  cases call with
  | write handle routingKey event =>
    cases known : catalog.path.writers[handle]? with
    | none =>
      simp only [run, runAfresh, DataPath.perform, DataPath.performAfresh, DataPath.write,
        DataPath.writeAfresh, known]
    | some writing =>
      have start : (UnsteadyStore.mk catalog.store 0 []).store.Filed := filed
      rw [run_write hash outages filed known]
      simp only [runAfresh, Plan.attempt, DataPath.performAfresh, DataPath.writeAfresh, known,
        run_then, Writer.run_writeAfresh outages start]
      cases admitted : writing.writer.admission (outages 0)
          (catalog.store.stream? writing.writer.stream) with
      | error failure => rfl
      | ok record =>
        obtain ⟨-, found, -, same⟩ := Writer.admission_ok admitted
        simp only [Writer.refreshed_eq_reloaded (informed handle writing known) found same]
        rfl
  | lifecycle settings operation => rfl
  | query query => rfl
  | openWriter client stream => rfl
  | isStale handle => rfl
  | append client incarnation segment event => rfl
  | read client incarnation segment => rfl
  | countEvents client incarnation => rfl
  | usedSegments client incarnation => rfl

end Turn

namespace Writer

variable {writer : Writer} {record : StreamRecord}

theorem Knows.of_record {store : Store} (found : store.stream? writer.stream = some record)
    (generation : record.generation = writer.generation) (epoch : record.epoch = writer.epoch)
    (segments : record.config.segmentCount = writer.segmentCount) : writer.Knows store :=
  ⟨record, record, found, .refl record, generation, epoch, segments⟩

theorem Knows.step {hash : String → UInt64} {catalog later : Catalog} {call : Call} {reply : Reply}
    (knows : writer.Knows catalog.store) (step : Step hash catalog call reply later) :
    writer.Knows later.store := by
  obtain ⟨seen, record, found, precedes, known⟩ := knows
  obtain ⟨next, kept, more⟩ := step.precedes found
  exact ⟨seen, next, kept, precedes.trans more, known⟩

end Writer

theorem Step.informed {hash : String → UInt64} {catalog later : Catalog} {call : Call}
    {reply : Reply} (step : Step hash catalog call reply later) (informed : catalog.Informed) :
    later.Informed := by
  intro other opened present
  have before : catalog.path.writers[other]? = some opened → opened.writer.Knows later.store :=
    fun known => (informed other opened known).step step
  cases step with
  | operated attempt => exact before present
  | opened found active =>
    rw [DataPath.writers_addWriter] at present
    split at present
    · cases present
      exact .of_record found rfl rfl rfl
    · exact before present
  | @wrote handle routingKey event writing record placed known found active same put =>
    rw [DataPath.writers_keepWrite known] at present
    split at present
    · cases present
      -- Whether it had to look or not, the writer now has what the record says.
      rw [Writer.refreshed_eq_reloaded (informed handle writing known) found same] at put
      cases put
      exact .of_record found same rfl rfl
    · exact before present
  | appended => exact before present
  | idle silent => exact before present

theorem Course.informed {hash : String → UInt64} {past : List Entry} {catalog : Catalog}
    (course : Course hash .empty past catalog) : catalog.Informed :=
  course.outlives .empty (fun _ catalog => catalog.Informed)
    (by simp [Catalog.Informed, Catalog.empty, DataPath.empty])
    fun _ _ _ _ _ _ step informed => step.informed informed

theorem Course.segmented {hash : String → UInt64} {past : List Entry} {catalog : Catalog}
    (course : Course hash .empty past catalog) : catalog.store.Segmented :=
  course.outlives .empty (fun _ catalog => catalog.store.Segmented) .empty
    fun _ _ _ _ _ _ step segmented => step.segmented segmented

theorem Turn.inOrder_afresh {hash : String → UInt64} {catalog : Catalog} (turns : List Turn)
    (filed : catalog.store.Filed) (informed : catalog.Informed) :
    inOrder (run hash) turns catalog = inOrder (runAfresh hash) turns catalog := by
  induction turns generalizing catalog with
  | nil => rfl
  | cons turn rest ih =>
    have step := turn.step hash filed
    have others := ih (step.filed filed) (step.informed informed)
    have first := turn.run_eq_runAfresh hash filed informed
    rw [first] at others
    simp only [inOrder, first, others]

/-- What becomes of a write: it depends on whether the look-up fails, and else on what the stream's
    record says at that moment. -/
inductive Routed (hash : String → UInt64) (catalog : Catalog) (handle : Nat) (writing : OpenWriter)
    (routingKey : String) (event : Payload) : Option String → Reply × Catalog → Prop where
  | unavailable {text : String} :
    Routed hash catalog handle writing routingKey event (some text)
      (.written (.error (.control (.store (.unavailable text)))), catalog)
  | sealed (inactive : ∀ record, catalog.store.stream? writing.writer.stream = some record →
        record.state ≠ .active) :
    Routed hash catalog handle writing routingKey event none
      (.written (.error (.streamSealed writing.writer.stream)), catalog)
  | recreated {record : StreamRecord}
      (found : catalog.store.stream? writing.writer.stream = some record)
      (active : record.state = .active)
      (different : record.generation ≠ writing.writer.generation) :
    Routed hash catalog handle writing routingKey event none
      (.written (.error (.streamRecreated writing.writer.stream)), catalog)
  | written {record : StreamRecord} {segment : Nat} {later : Catalog}
      (found : catalog.store.stream? writing.writer.stream = some record)
      (active : record.state = .active) (same : record.generation = writing.writer.generation)
      (chosen : segment = (hash routingKey).toNat % record.config.segmentCount)
      (inside : segment < record.config.segmentCount)
      (gains :
        catalog.path.Gains later.path writing.client writing.writer.incarnation segment event)
      (writers : later.path.writers = catalog.path.writers.setIfInBounds handle ⟨writing.client,
        { writing.writer with
          epoch := record.epoch
          segmentCount := record.config.segmentCount
          eventsWritten := writing.writer.eventsWritten + 1 }⟩)
      (store : later.store = catalog.store) :
    Routed hash catalog handle writing routingKey event none
      (.written (.ok ⟨segment, ((catalog.path.events writing.client).read
        writing.writer.incarnation segment).size⟩), later)

theorem route_eq (hash : String → UInt64) (routingKey : String) {segmentCount : Nat}
    (positive : 0 < segmentCount) :
    route hash routingKey segmentCount = (hash routingKey).toNat % segmentCount := by
  rw [route, Nat.max_eq_left positive]

theorem Turn.routed {hash : String → UInt64} {catalog : Catalog} (filed : catalog.store.Filed)
    (informed : catalog.Informed) (segmented : catalog.store.Segmented) {handle : Nat}
    {writing : OpenWriter} (known : catalog.path.writers[handle]? = some writing)
    (outages : Outages) (routingKey : String) (event : Payload) :
    Routed hash catalog handle writing routingKey event (outages 0)
      (run hash ⟨.write handle routingKey event, outages⟩ catalog) := by
  rw [run_write hash outages filed known]
  cases outages 0 with
  | some text => exact .unavailable
  | none =>
    cases found : catalog.store.stream? writing.writer.stream with
    | none => exact .sealed (by simp [found])
    | some record =>
      by_cases active : record.state = .active
      · by_cases same : record.generation = writing.writer.generation
        · have reloaded := Writer.refreshed_eq_reloaded (informed handle writing known) found same
          have positive := segmented _ _ found
          have chosen := route_eq hash routingKey positive
          have inside : route hash routingKey record.config.segmentCount <
              record.config.segmentCount := chosen ▸ Nat.mod_lt _ positive
          let placed := (writing.writer.reloaded record).place hash
            (catalog.path.events writing.client) routingKey event
          have put : (writing.writer.refreshed record).place hash
              (catalog.path.events writing.client) routingKey event = placed := by rw [reloaded]
          have puts := Writer.puts_of_refreshed put
          simp only [Writer.admission, active, same, if_true, reloaded]
          exact .written found active same chosen inside (puts.gains handle) rfl rfl
        · simp only [Writer.admission, active, same, if_true, if_false]
          exact .recreated found active same
      · simp only [Writer.admission, active, if_false]
        refine .sealed fun other present => ?_
        cases found.symm.trans present
        exact active

/-- An event with a routing key that a stream has taken into a segment, under a record. -/
structure Entry.Placed (stream : StreamId) (routingKey : String) (record : StreamRecord)
    (segment : Nat) (entry : Entry) : Prop where
  written : ∃ handle event writing offset, entry.call = .write handle routingKey event ∧
    entry.before.path.writers[handle]? = some writing ∧ writing.writer.stream = stream ∧
    entry.reply = .written (.ok ⟨segment, offset⟩)
  found : entry.before.store.stream? stream = some record

theorem Step.placed {hash : String → UInt64} {catalog later : Catalog} {call : Call} {reply : Reply}
    (step : Step hash catalog call reply later) (informed : catalog.Informed)
    (segmented : catalog.store.Segmented) {stream : StreamId} {routingKey : String}
    {record : StreamRecord} {segment : Nat}
    (placed : Entry.Placed stream routingKey record segment ⟨catalog, call, reply⟩) :
    segment = (hash routingKey).toNat % record.config.segmentCount := by
  obtain ⟨⟨handle, event, writing, offset, asked, present, rfl, answered⟩, stands⟩ := placed
  cases asked
  cases step with
  | @wrote _ _ _ other current put known found active same done =>
    cases present.symm.trans known
    cases found.symm.trans stands
    rw [Writer.refreshed_eq_reloaded (informed handle writing known) found same] at done
    cases done
    cases answered
    exact route_eq hash routingKey (segmented _ _ found)
  | idle silent =>
    cases answered
    exact silent.elim

namespace Course

variable {hash : String → UInt64} {past : List Entry} {catalog : Catalog}

theorem placed (course : Course hash .empty past catalog) :
    ∀ entry ∈ past, ∀ stream routingKey record segment,
      entry.Placed stream routingKey record segment →
      segment = (hash routingKey).toNat % record.config.segmentCount := by
  induction course with
  | start => simp
  | turn course turn ih =>
    intro entry member stream routingKey record segment placed
    rcases List.mem_cons.mp member with rfl | member
    · have step := turn.step hash (course.filed .empty)
      exact step.placed course.informed course.segmented placed
    · exact ih entry member stream routingKey record segment placed

/-- In every course from the empty catalogue, whatever calls fail, writers act as if they looked up
    the number of segments for every event. An event goes to the segment that its routing key has
    among those on record, and two events of one stream with the same routing key share a segment as
    long as the number of segments, or the generation and the epoch, are the same. -/
theorem routing_follows_record (course : Course hash .empty past catalog) :
    (∀ turns, Turn.inOrder (Turn.run hash) turns catalog =
      Turn.inOrder (Turn.runAfresh hash) turns catalog) ∧
    (∀ handle writing outages routingKey event, catalog.path.writers[handle]? = some writing →
      Routed hash catalog handle writing routingKey event (outages 0)
        (Turn.run hash ⟨.write handle routingKey event, outages⟩ catalog)) ∧
    (∀ first ∈ past, ∀ second ∈ past, ∀ stream routingKey record other segment place,
      first.Placed stream routingKey record segment →
      second.Placed stream routingKey other place →
      record.config.segmentCount = other.config.segmentCount ∨
        record.generation = other.generation ∧ record.epoch = other.epoch →
      segment = place) := by
  have filed := course.filed .empty
  refine ⟨fun turns => Turn.inOrder_afresh turns filed course.informed, ?_, ?_⟩
  · intro handle writing outages routingKey event known
    exact Turn.routed filed course.informed course.segmented known outages routingKey event
  · intro first isFirst second isSecond stream routingKey record other segment place placed
      placedToo alike
    have counts : record.config.segmentCount = other.config.segmentCount := by
      rcases alike with counts | ⟨generation, epoch⟩
      · exact counts
      · rcases course.past_ordered .empty first isFirst second isSecond record other placed.found
          placedToo.found with before | after
        · rw [before.config_eq generation epoch]
        · rw [after.config_eq generation.symm epoch.symm]
    rw [course.placed first isFirst stream routingKey record segment placed,
      course.placed second isSecond stream routingKey other place placedToo, counts]

def rescaled : List Turn :=
  [.lifecycle {} (.createScope "s"), .lifecycle {} (.createStream ⟨"s", "a"⟩ (.fixed 2)),
    .openWriter 0 ⟨"s", "a"⟩, .openWriter 1 ⟨"s", "a"⟩, .write 0 "k" [1],
    .lifecycle {} (.updateStream ⟨"s", "a"⟩ (.fixed 3)), .write 1 "k" [2]].map
    fun call => ⟨call, fun _ => none⟩

theorem routing_follows_record_rescaled :
    ∃ past catalog, Course textHash .empty past catalog ∧
      catalog.path.writers[0]? = some ⟨0, ⟨⟨"s", "a"⟩, 0, 0, 2, 1⟩⟩ ∧
      catalog.store.stream? ⟨"s", "a"⟩ = some ⟨.active, .fixed 3, 1, 0⟩ ∧
      ∃ later, Turn.run textHash ⟨.write 0 "k" [3], fun _ => none⟩ catalog =
          (.written (.ok ⟨2, 0⟩), later) ∧
        ((later.path.events 0).read ⟨⟨"s", "a"⟩, 0⟩ 2).toList = [[3]] ∧
        ((later.path.events 0).read ⟨⟨"s", "a"⟩, 0⟩ 0).toList = [[1]] := by
  have course : Course textHash .empty _ _ := Course.inOrder .start rescaled
  have known : (Turn.inOrder (Turn.run textHash) rescaled .empty).2.path.writers[0]? =
      some ⟨0, ⟨⟨"s", "a"⟩, 0, 0, 2, 1⟩⟩ := by rfl
  have found : (Turn.inOrder (Turn.run textHash) rescaled .empty).2.store.stream? ⟨"s", "a"⟩ =
      some ⟨.active, .fixed 3, 1, 0⟩ := by rfl
  refine ⟨_, _, course, known, found, ?_⟩
  obtain ⟨-, routed, -⟩ := routing_follows_record course
  have routed := routed 0 _ (fun _ => none) "k" [3] known
  generalize Turn.run textHash ⟨.write 0 "k" [3], fun _ => none⟩ _ = done at routed
  cases routed with
  | sealed inactive => exact absurd rfl (inactive _ found)
  | recreated present active different =>
    cases found.symm.trans present
    exact absurd rfl different
  | written present active same chosen inside gains writers store =>
    cases found.symm.trans present
    have third : (textHash "k").toNat % (StreamConfig.fixed 3).segmentCount = 2 := by decide
    rw [third] at chosen
    subst chosen
    refine ⟨_, rfl, congrArg Array.toList gains.pushed, ?_⟩
    rw [gains.read, if_neg (by decide)]
    rfl

end Course

end StreamCatalog
