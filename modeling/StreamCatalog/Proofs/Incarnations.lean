import StreamCatalog.Hash.Text
import StreamCatalog.Proofs.Deliveries
import StreamCatalog.Proofs.Succession

namespace StreamCatalog

/-- Whether the life with this generation is over: its stream is sealed or deleted, or a later life
    has begun. -/
def StreamRecord.Closes (generation : Nat) (record : StreamRecord) : Prop :=
  generation < record.generation ∨
    generation = record.generation ∧ (record.state = .sealed ∨ record.state = .deleted)

def Incarnation.Closed (incarnation : Incarnation) (store : Store) : Prop :=
  ∃ record, store.stream? incarnation.stream = some record ∧
    record.Closes incarnation.generation

theorem StreamRecord.Closes.not_current {generation : Nat} {record : StreamRecord}
    (closes : record.Closes generation) (active : record.state = .active) :
    record.generation ≠ generation := by
  rcases closes with below | ⟨-, ended | ended⟩
  · omega
  · exact nomatch active.symm.trans ended
  · exact nomatch active.symm.trans ended

theorem StreamMove.closes {event : Event} {stream : StreamId} {current next : Option StreamRecord}
    {record : StreamRecord} {generation : Nat} (move : StreamMove event stream current next)
    (found : current = some record) (closes : record.Closes generation) :
    ∃ later, next = some later ∧ later.Closes generation := by
  cases move with
  | kept idle => exact ⟨record, found, closes⟩
  | created asked done => cases found
  | @recreated config previous epoch before asked done reusable =>
    cases found
    refine ⟨_, rfl, .inl ?_⟩
    show generation < before + 1
    rcases closes with below | ⟨same, -⟩
    · exact Nat.lt_succ_of_lt below
    · exact Nat.lt_succ_of_le (Nat.le_of_eq same)
  | updated asked done =>
    cases found
    rcases closes with below | ⟨-, ended | ended⟩
    · exact ⟨_, rfl, .inl below⟩
    · cases ended
    · cases ended
  | sealed asked done =>
    cases found
    rcases closes with below | ⟨-, ended | ended⟩
    · exact ⟨_, rfl, .inl below⟩
    · cases ended
    · cases ended
  | deleted asked =>
    cases found
    rcases closes with below | ⟨same, -⟩
    · exact ⟨_, rfl, .inl below⟩
    · exact ⟨_, rfl, .inr ⟨same, .inr rfl⟩⟩

def Call.isAppend : Call → Bool
  | .append .. => true
  | _ => false

def ThroughWriters (past : List Entry) : Prop := ∀ entry ∈ past, entry.call.isAppend = false

instance : DecidablePred ThroughWriters :=
  fun past => inferInstanceAs (Decidable (∀ entry ∈ past, entry.call.isAppend = false))

section Steps

variable {hash : String → UInt64} {catalog later : Catalog} {call : Call} {reply : Reply}

theorem Step.closed {incarnation : Incarnation} (step : Step hash catalog call reply later)
    (closed : incarnation.Closed catalog.store) : incarnation.Closed later.store := by
  obtain ⟨record, found, closes⟩ := closed
  rcases step.store with same | ⟨attempt, -, -, same⟩
  · exact ⟨record, by rw [same, found], closes⟩
  · unfold Incarnation.Closed
    rw [same]
    exact (attempt.move catalog.store incarnation.stream).closes found closes

theorem Step.current (step : Step hash catalog call reply later) (written : call.isAppend = false)
    {delivery : Delivery} (told : Entry.delivery? ⟨catalog, call, reply⟩ = some delivery) :
    ∃ record, catalog.store.stream? delivery.incarnation.stream = some record ∧
      record.state = .active ∧ record.generation = delivery.incarnation.generation := by
  cases step with
  | operated attempt => cases told
  | opened found active => cases told
  | wrote known found active same put =>
    simp only [Entry.delivery?, known, Option.map_some] at told
    cases told
    exact ⟨_, found, active, same⟩
  | appended => cases written
  | idle silent => cases (Entry.delivery?_of_silent silent).symm.trans told

theorem Step.frozen {incarnation : Incarnation} (step : Step hash catalog call reply later)
    (written : call.isAppend = false) (closed : incarnation.Closed catalog.store) (client : Nat) :
    (later.path.events client).segments incarnation =
      (catalog.path.events client).segments incarnation := by
  rcases step.delivery with ⟨-, same⟩ | ⟨delivery, told, made⟩
  · rw [same]
  · obtain ⟨record, found, active, same⟩ := step.current written told
    -- The delivery is to a life that lasts, so it is not to this one.
    have elsewhere : delivery.incarnation ≠ incarnation := by
      rintro rfl
      obtain ⟨other, present, closes⟩ := closed
      cases found.symm.trans present
      exact closes.not_current active same
    exact made.segments elsewhere client

theorem Step.bound (step : Step hash catalog call reply later) {handle : Nat} {opened : OpenWriter}
    (known : catalog.path.writers[handle]? = some opened) :
    ∃ writer, later.path.writers[handle]? = some ⟨opened.client, writer⟩ ∧
      writer.incarnation = opened.writer.incarnation := by
  cases step with
  | operated attempt => exact ⟨opened.writer, known, rfl⟩
  | opened found active =>
    have inside : handle < catalog.path.writers.size := (Array.getElem?_eq_some_iff.mp known).1
    refine ⟨opened.writer, ?_, rfl⟩
    rw [DataPath.writers_addWriter, if_neg (Nat.ne_of_lt inside), known]
  | @wrote other routingKey event writing record placed present found active same put =>
    rw [DataPath.writers_keepWrite present]
    split
    · rename_i here
      cases here
      cases known.symm.trans present
      exact ⟨placed.2.1, rfl, (Writer.puts_of_refreshed put).incarnation⟩
    · exact ⟨opened.writer, known, rfl⟩
  | appended => exact ⟨opened.writer, known, rfl⟩
  | idle silent => exact ⟨opened.writer, known, rfl⟩

/-- A write does nothing, or puts its event among those of the life that the writer belongs to, and
    only while this life lasts. -/
theorem Step.of_write {handle : Nat} {routingKey : String} {event : Payload}
    (step : Step hash catalog (.write handle routingKey event) reply later) {writing : OpenWriter}
    (known : catalog.path.writers[handle]? = some writing) :
    later = catalog ∨ ∃ record segment,
      catalog.store.stream? writing.writer.stream = some record ∧ record.state = .active ∧
      record.generation = writing.writer.generation ∧
      catalog.path.Gains later.path writing.client writing.writer.incarnation segment event := by
  cases step with
  | @wrote _ _ _ other record placed present found active same put =>
    cases known.symm.trans present
    have puts := Writer.puts_of_refreshed put
    exact .inr ⟨record, placed.1.segment, found, active, same, puts.gains handle⟩
  | idle silent => exact .inl rfl

end Steps

def Catalog.Begun (catalog : Catalog) : Prop :=
  ∀ (client : Nat) (incarnation : Incarnation),
    (catalog.path.events client).segments incarnation ≠ ∅ →
    ∃ record, catalog.store.stream? incarnation.stream = some record ∧
      incarnation.generation ≤ record.generation

theorem Step.begun {hash : String → UInt64} {catalog later : Catalog} {call : Call} {reply : Reply}
    (step : Step hash catalog call reply later) (written : call.isAppend = false)
    (begun : catalog.Begun) : later.Begun := by
  intro client incarnation used
  have before : ∃ record, catalog.store.stream? incarnation.stream = some record ∧
      incarnation.generation ≤ record.generation := by
    rcases step.delivery with ⟨-, same⟩ | ⟨delivery, told, made⟩
    · rw [same] at used
      exact begun client incarnation used
    · by_cases here : delivery.incarnation = incarnation
      · subst here
        obtain ⟨record, found, -, same⟩ := step.current written told
        exact ⟨record, found, Nat.le_of_eq same.symm⟩
      · rw [made.segments here] at used
        exact begun client incarnation used
  obtain ⟨record, found, reached⟩ := before
  obtain ⟨next, kept, more⟩ := step.precedes found
  exact ⟨next, kept, Nat.le_trans reached more.generation_le⟩

theorem Catalog.Begun.created {catalog : Catalog} (begun : catalog.Begun) {attempt : Attempt}
    {stream : StreamId} {config : StreamConfig}
    (asked : attempt.operation = .createStream stream config)
    (done : (attempt.run catalog.store).1 = .ok true) :
    ∃ generation,
      (attempt.after catalog.store).stream? stream = some ⟨.active, config, 0, generation⟩ ∧
      ∀ client, (catalog.path.events client).segments ⟨stream, generation⟩ = ∅ := by
  have move := attempt.move catalog.store stream
  -- Every life with events has begun, so one that comes after those on record has none.
  have unused (generation : Nat) (later : ∀ record, catalog.store.stream? stream = some record →
      record.generation < generation) (client : Nat) :
      (catalog.path.events client).segments ⟨stream, generation⟩ = ∅ := by
    by_contra used
    obtain ⟨record, found, reached⟩ := begun client ⟨stream, generation⟩ used
    exact absurd (later record found) (Nat.not_lt.mpr reached)
  generalize before : catalog.store.stream? stream = current at move
  generalize (attempt.after catalog.store).stream? stream = next at move
  cases move with
  | kept idle => exact absurd done (idle (congrArg Operation.stream? asked))
  | created again answered =>
    cases asked.symm.trans again
    exact ⟨0, rfl, unused 0 (by simp [before])⟩
  | @recreated other previous epoch generation again answered reusable =>
    cases asked.symm.trans again
    exact ⟨generation + 1, rfl, unused (generation + 1) (by simp [before])⟩
  | updated again answered => cases asked.symm.trans again
  | sealed again answered => cases asked.symm.trans again
  | deleted again => cases asked.symm.trans again

namespace Course

variable {hash : String → UInt64} {start catalog later : Catalog} {past more : List Entry}

theorem frozen (rest : Course hash catalog more later) (filed : catalog.store.Filed)
    (written : ThroughWriters more) {incarnation : Incarnation}
    (closed : incarnation.Closed catalog.store) (client : Nat) :
    (later.path.events client).segments incarnation =
      (catalog.path.events client).segments incarnation := by
  have both := rest.outlives filed (fun past last => ThroughWriters past →
    incarnation.Closed last.store ∧ (last.path.events client).segments incarnation =
      (catalog.path.events client).segments incarnation) (fun _ => ⟨closed, rfl⟩) ?_
  · exact (both written).2
  · intro past last call reply next filed step held written
    obtain ⟨direct, earlier⟩ := List.forall_mem_cons.mp written
    obtain ⟨closed, same⟩ := held earlier
    exact ⟨step.closed closed, (step.frozen direct closed client).trans same⟩

theorem begun (course : Course hash .empty past catalog) (written : ThroughWriters past) :
    catalog.Begun := by
  refine course.outlives .empty (fun past catalog => ThroughWriters past → catalog.Begun) ?_ ?_
    written
  · intro _ client incarnation used
    simp [Catalog.empty, DataPath.empty, DataPath.events] at used
  · intro past catalog call reply later filed step begun written
    obtain ⟨direct, earlier⟩ := List.forall_mem_cons.mp written
    exact step.begun direct (begun earlier)

theorem bound (rest : Course hash catalog more later) (filed : catalog.store.Filed) {handle : Nat}
    {opened : OpenWriter} (known : catalog.path.writers[handle]? = some opened) :
    ∃ writer, later.path.writers[handle]? = some ⟨opened.client, writer⟩ ∧
      writer.incarnation = opened.writer.incarnation := by
  refine rest.outlives filed (fun _ later => ∃ writer,
    later.path.writers[handle]? = some ⟨opened.client, writer⟩ ∧
      writer.incarnation = opened.writer.incarnation) ⟨opened.writer, known, rfl⟩ ?_
  rintro past catalog call reply later filed step ⟨writer, present, same⟩
  obtain ⟨next, kept, bound⟩ := step.bound present
  exact ⟨next, kept, bound.trans same⟩

end Course

theorem Step.of_opened {hash : String → UInt64} {catalog later : Catalog} {client handle : Nat}
    {stream : StreamId}
    (step : Step hash catalog (.openWriter client stream) (.opened (.ok handle)) later) :
    ∃ record writer, catalog.store.stream? stream = some record ∧ record.state = .active ∧
      later.path.writers[handle]? = some ⟨client, writer⟩ ∧
      writer.incarnation = ⟨stream, record.generation⟩ := by
  cases step with
  | @opened _ _ record found active =>
    have known := catalog.path.writers_addWriter ⟨client,
      ⟨stream, record.generation, record.epoch, record.config.segmentCount, 0⟩⟩
      catalog.path.writers.size
    rw [if_pos rfl] at known
    exact ⟨record, _, found, active, known, rfl⟩
  | idle silent => exact silent.elim

namespace Course

variable {hash : String → UInt64} {past : List Entry} {catalog : Catalog}

theorem created (course : Course hash .empty past catalog) (written : ThroughWriters past)
    (settings : Settings) (stream : StreamId) (config : StreamConfig) (outages : Outages)
    (done : (Turn.run hash ⟨.lifecycle settings (.createStream stream config), outages⟩
      catalog).1 = .lifecycle (.ok true)) :
    ∃ generation,
      (Turn.run hash ⟨.lifecycle settings (.createStream stream config), outages⟩
        catalog).2.store.stream? stream = some ⟨.active, config, 0, generation⟩ ∧
      ∀ client, ((Turn.run hash ⟨.lifecycle settings (.createStream stream config), outages⟩
        catalog).2.path.events client).segments ⟨stream, generation⟩ = ∅ := by
  rw [Turn.run_lifecycle] at done ⊢
  exact (course.begun written).created rfl (Reply.lifecycle.inj done)

theorem opened (course : Course hash .empty past catalog) {client handle : Nat} {stream : StreamId}
    {outages : Outages} (told : (Turn.run hash ⟨.openWriter client stream, outages⟩ catalog).1 =
      .opened (.ok handle)) :
    ∃ record, catalog.store.stream? stream = some record ∧ record.state = .active ∧
      ∀ more later,
        Course hash (Turn.run hash ⟨.openWriter client stream, outages⟩ catalog).2 more later →
        ∃ writer, later.path.writers[handle]? = some ⟨client, writer⟩ ∧
          writer.incarnation = ⟨stream, record.generation⟩ := by
  have step := Turn.step hash (course.filed .empty) ⟨.openWriter client stream, outages⟩
  have filed := step.filed (course.filed .empty)
  rw [told] at step
  obtain ⟨record, writer, found, active, known, life⟩ := step.of_opened
  refine ⟨record, found, active, fun more later rest => ?_⟩
  obtain ⟨last, kept, same⟩ := rest.bound filed known
  exact ⟨last, kept, same.trans life⟩

/-- In every course from the empty catalogue, whatever calls fail: the events of a life that is over
    stay as they are, if none are appended past the writers; a life that has just begun has none;
    and a writer adds events only to the life that it was opened on, while that lasts. -/
theorem lives_are_separate (course : Course hash .empty past catalog)
    (written : ThroughWriters past) :
    (∀ incarnation, incarnation.Closed catalog.store →
      ∀ more later, Course hash catalog more later → ThroughWriters more →
      ∀ client, (later.path.events client).segments incarnation =
        (catalog.path.events client).segments incarnation) ∧
    (∀ settings stream config outages,
      let created := Turn.run hash ⟨.lifecycle settings (.createStream stream config), outages⟩
        catalog
      created.1 = .lifecycle (.ok true) →
      ∃ generation,
        created.2.store.stream? stream = some ⟨.active, config, 0, generation⟩ ∧
        ∀ client, (created.2.path.events client).segments ⟨stream, generation⟩ = ∅) ∧
    (∀ client stream outages handle,
      let opened := Turn.run hash ⟨.openWriter client stream, outages⟩ catalog
      opened.1 = .opened (.ok handle) →
      ∃ record, catalog.store.stream? stream = some record ∧ record.state = .active ∧
        ∀ more later, Course hash opened.2 more later → ∀ routingKey event outages,
          let last := (Turn.run hash ⟨.write handle routingKey event, outages⟩ later).2
          last = later ∨ ∃ current segment,
            later.store.stream? stream = some current ∧ current.state = .active ∧
            current.generation = record.generation ∧
            later.path.Gains last.path client ⟨stream, record.generation⟩ segment event) := by
  refine ⟨?_, fun settings stream config outages => course.created written settings stream config
    outages, ?_⟩
  · intro incarnation closed more later rest direct client
    exact rest.frozen (course.filed .empty) direct closed client
  · intro client stream outages handle opened told
    obtain ⟨record, found, active, bound⟩ := course.opened told
    refine ⟨record, found, active, fun more later rest routingKey event failing => ?_⟩
    obtain ⟨writer, known, life⟩ := bound more later rest
    have filed := ((course.turn ⟨.openWriter client stream, outages⟩).append rest).filed .empty
    have step := Turn.step hash filed ⟨.write handle routingKey event, failing⟩
    rcases step.of_write known with same | ⟨current, segment, stands, lasting, number, put⟩
    · exact .inl same
    · cases writer
      cases life
      exact .inr ⟨current, segment, stands, lasting, number, put⟩

def endedLife : List Turn :=
  [.lifecycle {} (.createScope "s"), .lifecycle {} (.createStream ⟨"s", "a"⟩ {}),
    .openWriter 0 ⟨"s", "a"⟩, .write 0 "k" [1], .lifecycle {} (.sealStream ⟨"s", "a"⟩),
    .lifecycle {} (.deleteStream ⟨"s", "a"⟩), .lifecycle {} (.deleteScope "s"),
    .lifecycle {} (.createScope "s")].map fun call => ⟨call, fun _ => none⟩

def secondLife : List Turn :=
  [.lifecycle {} (.createStream ⟨"s", "a"⟩ {}), .openWriter 0 ⟨"s", "a"⟩, .write 0 "k" [2],
    .write 1 "k" [3]].map fun call => ⟨call, fun _ => none⟩

theorem lives_are_separate_second_life :
    ∃ past catalog more later, Course textHash .empty past catalog ∧ ThroughWriters past ∧
      Course textHash catalog more later ∧
      (later.path.events 0).segments ⟨⟨"s", "a"⟩, 0⟩ =
        (catalog.path.events 0).segments ⟨⟨"s", "a"⟩, 0⟩ ∧
      ((catalog.path.events 0).read ⟨⟨"s", "a"⟩, 0⟩ 0).toList = [[1]] ∧
      ((later.path.events 0).read ⟨⟨"s", "a"⟩, 1⟩ 0).toList = [[3]] := by
  have course : Course textHash .empty _ _ := Course.inOrder .start endedLife
  have rest : Course textHash (Turn.inOrder (Turn.run textHash) endedLife .empty).2 _ _ :=
    Course.inOrder .start secondLife
  have written : ThroughWriters
      ((Turn.inOrder (Turn.run textHash) endedLife .empty).1.reverse ++ []) := by decide
  have direct : ThroughWriters ((Turn.inOrder (Turn.run textHash) secondLife
      (Turn.inOrder (Turn.run textHash) endedLife .empty).2).1.reverse ++ []) := by decide
  have closed : Incarnation.Closed ⟨⟨"s", "a"⟩, 0⟩
      (Turn.inOrder (Turn.run textHash) endedLife .empty).2.store :=
    ⟨⟨.deleted, {}, 0, 0⟩, by rfl, .inr ⟨rfl, .inr rfl⟩⟩
  obtain ⟨frozen, -, -⟩ := lives_are_separate course written
  exact ⟨_, _, _, _, course, written, rest, frozen _ closed _ _ rest direct 0, by rfl, by rfl⟩

end Course

end StreamCatalog
