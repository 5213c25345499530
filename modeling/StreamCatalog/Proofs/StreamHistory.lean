import StreamCatalog.Proofs.Run

namespace StreamCatalog

namespace Event

def creates (stream : StreamId) (event : Event) : Bool :=
  match event.operation, event.result with
  | .createStream created _, .ok true => created = stream
  | _, _ => false

def updates (stream : StreamId) (event : Event) : Bool :=
  match event.operation, event.result with
  | .updateStream updated _, .ok true => updated = stream
  | _, _ => false

def creations (stream : StreamId) (past : List Event) : Nat := past.countP (creates stream)

/-- How often the stream was updated since it was last created. -/
def updatesSinceCreation (stream : StreamId) (past : List Event) : Nat :=
  (past.takeWhile fun event => !event.creates stream).countP (updates stream)

variable {stream : StreamId} {event : Event} {past : List Event}

theorem not_creates (idle : event.operation.stream? = some stream → event.result ≠ .ok true) :
    event.creates stream = false := by
  unfold creates
  split
  · rename_i created config operation result
    rw [operation] at idle
    by_cases same : created = stream
    · exact absurd result (idle (congrArg some same))
    · simp [same]
  · rfl

theorem not_updates (idle : event.operation.stream? = some stream → event.result ≠ .ok true) :
    event.updates stream = false := by
  unfold updates
  split
  · rename_i updated config operation result
    rw [operation] at idle
    by_cases same : updated = stream
    · exact absurd result (idle (congrArg some same))
    · simp [same]
  · rfl

theorem creations_of_creates (creates : event.creates stream = true) :
    creations stream (event :: past) = creations stream past + 1 := by
  simp [creations, creates]

theorem creations_of_not_creates (past : List Event) (other : event.creates stream = false) :
    creations stream (event :: past) = creations stream past := by
  simp [creations, other]

theorem updatesSinceCreation_of_creates (creates : event.creates stream = true) :
    updatesSinceCreation stream (event :: past) = 0 := by
  simp [updatesSinceCreation, creates]

theorem updatesSinceCreation_of_not_creates (past : List Event)
    (other : event.creates stream = false) :
    updatesSinceCreation stream (event :: past) =
      updatesSinceCreation stream past + if event.updates stream then 1 else 0 := by
  simp [updatesSinceCreation, other, List.countP_cons]

end Event

/-- How an event may change the record of a stream. A deletion may also have been answered with an
    error, when the write that was to take it back was lost. -/
inductive StreamMove (event : Event) (stream : StreamId) :
    Option StreamRecord → Option StreamRecord → Prop where
  | kept {current : Option StreamRecord}
      (idle : event.operation.stream? = some stream → event.result ≠ .ok true) :
    StreamMove event stream current current
  | created {config : StreamConfig} (asked : event.operation = .createStream stream config)
      (done : event.result = .ok true) :
    StreamMove event stream none (some ⟨.active, config, 0, 0⟩)
  | recreated {config previous : StreamConfig} {epoch generation : Nat}
      (asked : event.operation = .createStream stream config) (done : event.result = .ok true)
      (reusable : event.settings.nameReuse = true) :
    StreamMove event stream (some ⟨.deleted, previous, epoch, generation⟩)
      (some ⟨.active, config, 0, generation + 1⟩)
  | updated {config previous : StreamConfig} {epoch generation : Nat}
      (asked : event.operation = .updateStream stream config) (done : event.result = .ok true) :
    StreamMove event stream (some ⟨.active, previous, epoch, generation⟩)
      (some ⟨.active, config, epoch + 1, generation⟩)
  | sealed {config : StreamConfig} {epoch generation : Nat}
      (asked : event.operation = .sealStream stream) (done : event.result = .ok true) :
    StreamMove event stream (some ⟨.active, config, epoch, generation⟩)
      (some ⟨.sealed, config, epoch, generation⟩)
  | deleted {config : StreamConfig} {epoch generation : Nat}
      (asked : event.operation = .deleteStream stream) :
    StreamMove event stream (some ⟨.sealed, config, epoch, generation⟩)
      (some ⟨.deleted, config, epoch, generation⟩)

namespace Change

variable {settings : Settings} {store : Store} {operation : Operation} {stream : StreamId}

theorem move {verdict : Verdict} (change : Change settings store operation verdict)
    (here : operation.stream? = some stream) (lost : List Key) :
    StreamMove ⟨settings, operation, .ok true, lost⟩ stream (store.stream? stream)
      ((verdict.apply store).stream? stream) := by
  cases change with
  | createScope vacant => cases here
  | deleteScope found => cases here
  | createStream listing active free =>
    cases here
    simp only [Verdict.apply, Store.stream?_write_stream, if_pos]
    rcases found : store.stream? stream with _ | ⟨state, previous, epoch, generation⟩
    · exact .created rfl rfl
    · simp only [found, isFree, Bool.and_eq_true, decide_eq_true_eq] at free
      obtain ⟨rfl, reusable⟩ := free
      exact .recreated rfl rfl reusable
  | @updateStream _ config record found active =>
    cases here
    obtain ⟨state, previous, epoch, generation⟩ := record
    cases active
    simp only [Verdict.apply, Store.stream?_write_stream, if_pos, found]
    exact .updated rfl rfl
  | @sealStream _ record found active =>
    cases here
    obtain ⟨state, config, epoch, generation⟩ := record
    cases active
    simp only [Verdict.apply, Store.stream?_write_stream, if_pos, found]
    exact .sealed rfl rfl
  | @deleteUnlisted _ record found closed unlisted =>
    cases here
    obtain ⟨state, config, epoch, generation⟩ := record
    cases closed
    simp only [Verdict.apply, Store.stream?_write_stream, if_pos, found]
    exact .deleted rfl
  | @deleteListed _ record parent found closed listing listed =>
    cases here
    obtain ⟨state, config, epoch, generation⟩ := record
    cases closed
    simp only [Verdict.apply, Store.stream?_write_scope, Store.stream?_write_stream, if_pos, found]
    exact .deleted rfl

theorem move_half {first undo second : Write} {failure : StoreFailure}
    (change : Change settings store operation (.both first undo second))
    (here : operation.stream? = some stream) (lost : List Key) :
    StreamMove ⟨settings, operation, .error (.store failure), lost⟩ stream (store.stream? stream)
      ((store.write first).stream? stream) := by
  cases change with
  | createStream listing active free =>
    rw [Store.stream?_write_scope]
    exact .kept nofun
  | @deleteListed _ record parent found closed listing listed =>
    cases here
    obtain ⟨state, config, epoch, generation⟩ := record
    cases closed
    simp only [Store.stream?_write_stream, if_pos, found]
    exact .deleted rfl

end Change

theorem Attempt.move (attempt : Attempt) (store : Store) (stream : StreamId) :
    StreamMove (attempt.event store) stream (store.stream? stream)
      ((attempt.after store).stream? stream) := by
  by_cases here : attempt.operation.stream? = some stream
  · have effect := attempt.effect store
    unfold event after
    generalize attempt.run store = ended at effect
    cases effect with
    | kept quiet restored same =>
      rw [Store.SameRecords.stream? same]
      exact .kept fun _ => quiet
    | changed change calls => exact change.move here []
    | half change calls => exact change.move_half here _
  -- The attempt is about something else and has not touched the record.
  · have outside : ¬ attempt.operation.Targets (.stream stream) := by
      rintro (scope | ⟨other, asked, same⟩)
      · cases scope
      · cases same
        exact here asked
    have same : (attempt.after store).stream? stream = store.stream? stream := by
      rw [Store.stream?, Store.value?, after, (attempt.frame store).others _ outside]
      rfl
    rw [same]
    exact .kept fun asked => absurd asked here

def StreamRecord.UpTo (record later : StreamRecord) : Prop :=
  record.generation < later.generation ∨
    record.generation = later.generation ∧ record.epoch ≤ later.epoch

theorem StreamRecord.UpTo.trans {record middle later : StreamRecord} (first : record.UpTo middle)
    (second : middle.UpTo later) : record.UpTo later := by
  unfold StreamRecord.UpTo at *
  omega

/-- What the record of a stream tells about its past. -/
def StreamRecord.Counts (stream : StreamId) (past : List Event) : Option StreamRecord → Prop
  | none => Event.creations stream past = 0
  | some record => record.generation + 1 = Event.creations stream past ∧
      record.epoch = Event.updatesSinceCreation stream past

namespace StreamMove

variable {event : Event} {stream : StreamId} {past : List Event}

theorem upTo {current next : Option StreamRecord} {record : StreamRecord}
    (move : StreamMove event stream current next) (found : current = some record) :
    ∃ later, next = some later ∧ record.UpTo later := by
  cases move with
  | kept idle => exact ⟨record, found, .inr ⟨rfl, Nat.le_refl _⟩⟩
  | created asked done => cases found
  | recreated asked done reusable =>
    cases found
    exact ⟨_, rfl, .inl (Nat.lt_succ_self _)⟩
  | updated asked done =>
    cases found
    exact ⟨_, rfl, .inr ⟨rfl, Nat.le_succ _⟩⟩
  | sealed asked done =>
    cases found
    exact ⟨_, rfl, .inr ⟨rfl, Nat.le_refl _⟩⟩
  | deleted asked =>
    cases found
    exact ⟨_, rfl, .inr ⟨rfl, Nat.le_refl _⟩⟩

theorem counts_of_neither {record later : Option StreamRecord}
    (counted : StreamRecord.Counts stream past record)
    (numbers : record.map (fun found => (found.generation, found.epoch)) =
      later.map fun found => (found.generation, found.epoch))
    (uncreated : event.creates stream = false) (unchanged : event.updates stream = false) :
    StreamRecord.Counts stream (event :: past) later := by
  have creations := Event.creations_of_not_creates past uncreated
  have updates := Event.updatesSinceCreation_of_not_creates past uncreated
  rw [unchanged] at updates
  cases record <;> cases later <;> simp_all [StreamRecord.Counts]

theorem counts_of_creates {config : StreamConfig} {generation : Nat}
    (asked : event.operation = .createStream stream config) (done : event.result = .ok true)
    (counted : Event.creations stream past = generation) :
    StreamRecord.Counts stream (event :: past) (some ⟨.active, config, 0, generation⟩) := by
  have creates : event.creates stream = true := by simp [Event.creates, asked, done]
  refine ⟨?_, (Event.updatesSinceCreation_of_creates creates).symm⟩
  rw [Event.creations_of_creates creates, counted]

theorem counts {current next : Option StreamRecord} (move : StreamMove event stream current next)
    (counted : StreamRecord.Counts stream past current) :
    StreamRecord.Counts stream (event :: past) next := by
  cases move with
  | kept idle =>
    exact counts_of_neither counted rfl (Event.not_creates idle) (Event.not_updates idle)
  | created asked done => exact counts_of_creates asked done counted
  | recreated asked done reusable => exact counts_of_creates asked done counted.1.symm
  | updated asked done =>
    have uncreated : event.creates stream = false := by simp [Event.creates, asked]
    have updates : event.updates stream = true := by simp [Event.updates, asked, done]
    obtain ⟨creations, epochs⟩ := counted
    refine ⟨creations.trans (Event.creations_of_not_creates past uncreated).symm, ?_⟩
    rw [Event.updatesSinceCreation_of_not_creates past uncreated, updates, if_pos rfl, ← epochs]
  | sealed asked done =>
    exact counts_of_neither counted rfl (by simp [Event.creates, asked])
      (by simp [Event.updates, asked])
  | deleted asked =>
    exact counts_of_neither counted rfl (by simp [Event.creates, asked])
      (by simp [Event.updates, asked])

end StreamMove

namespace Run

variable {start store later : Store} {past more : List Event}

theorem counts (run : Run .empty past store) (stream : StreamId) :
    StreamRecord.Counts stream past (store.stream? stream) := by
  induction run with
  | start => rfl
  | step run attempt ih => exact (attempt.move _ stream).counts ih

/-- A record is never removed, and its generation and epoch never go back. -/
theorem upTo (run : Run start past store) {stream : StreamId} {record : StreamRecord}
    (found : start.stream? stream = some record) :
    ∃ last, store.stream? stream = some last ∧ record.UpTo last := by
  induction run with
  | start => exact ⟨record, found, .inr ⟨rfl, Nat.le_refl _⟩⟩
  | step run attempt ih =>
    obtain ⟨last, present, grown⟩ := ih
    obtain ⟨next, kept, more⟩ := (attempt.move _ stream).upTo present
    exact ⟨next, kept, grown.trans more⟩

/-- In every run from the empty store, whatever calls fail, an attempt moves the record of a stream
    along the lifecycle. The record counts the creations and updates that were answered with `true`,
    and is never lost or turned back later. -/
theorem stream_history (run : Run .empty past store) (stream : StreamId) :
    store.value? (.stream stream) = (store.stream? stream).map .stream ∧
    (∀ attempt : Attempt, StreamMove (attempt.event store) stream (store.stream? stream)
      ((attempt.after store).stream? stream)) ∧
    (store.stream? stream = none → Event.creations stream past = 0) ∧
    (∀ record, store.stream? stream = some record →
      record.generation + 1 = Event.creations stream past ∧
      record.epoch = Event.updatesSinceCreation stream past ∧
      ∀ more later, Run store more later →
        ∃ last, later.stream? stream = some last ∧ record.UpTo last) := by
  have counted := run.counts stream
  refine ⟨run.filed.value?_stream stream, fun attempt => attempt.move store stream, ?_, ?_⟩
  · intro absent
    rwa [absent] at counted
  · intro record found
    rw [found] at counted
    exact ⟨counted.1, counted.2, fun more later rest => rest.upTo found⟩

def secondLife : Store :=
  [.createScope "s", .createStream ⟨"s", "a"⟩ {}, .updateStream ⟨"s", "a"⟩ (.fixed 2),
    .sealStream ⟨"s", "a"⟩, .deleteStream ⟨"s", "a"⟩, .createStream ⟨"s", "a"⟩ {},
    .updateStream ⟨"s", "a"⟩ (.fixed 3)].foldl
    (fun store operation => (Attempt.steady {} operation).after store) .empty

theorem stream_history_second_life :
    ∃ past, Run .empty past secondLife ∧ Event.creations ⟨"s", "a"⟩ past = 2 ∧
      Event.updatesSinceCreation ⟨"s", "a"⟩ past = 1 := by
  have run : Run .empty _ secondLife :=
    .step (.step (.step (.step (.step (.step (.step .start _) _) _) _) _) _) _
  have found : secondLife.stream? ⟨"s", "a"⟩ = some ⟨.active, .fixed 3, 1, 1⟩ := by rfl
  obtain ⟨-, -, -, numbers⟩ := stream_history run ⟨"s", "a"⟩
  obtain ⟨creations, updates, -⟩ := numbers _ found
  exact ⟨_, run, creations.symm, updates.symm⟩

end Run

end StreamCatalog
