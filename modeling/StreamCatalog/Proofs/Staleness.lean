import StreamCatalog.Hash.Text
import StreamCatalog.Proofs.SessionSteps
import StreamCatalog.Proofs.StreamHistory

namespace StreamCatalog

namespace Entry

def granted? (entry : Entry) : Option Operation :=
  match entry.call, entry.reply with
  | .lifecycle _ operation, .lifecycle (.ok true) => some operation
  | _, _ => none

def creates (stream : StreamId) (entry : Entry) : Bool :=
  match entry.granted? with
  | some (.createStream created _) => created = stream
  | _ => false

def updates (stream : StreamId) (entry : Entry) : Bool :=
  match entry.granted? with
  | some (.updateStream updated _) => updated = stream
  | _ => false

def deletes (stream : StreamId) (entry : Entry) : Bool :=
  match entry.granted? with
  | some (.deleteStream deleted) => deleted = stream
  | _ => false

def opens (handle : Nat) (entry : Entry) : Bool :=
  match entry.reply with
  | .opened (.ok opened) => opened = handle
  | _ => false

def writes (handle : Nat) (entry : Entry) : Bool :=
  match entry.call, entry.reply with
  | .write writing _ _, .written (.ok _) => writing = handle
  | _, _ => false

def fails (entry : Entry) : Bool :=
  match entry.reply with
  | .lifecycle (.error (.store _)) => true
  | _ => false

variable {entry : Entry} {stream : StreamId}

theorem untouched (others : ∀ operation, entry.granted? = some operation →
      operation.stream? ≠ some stream) :
    entry.creates stream = false ∧ entry.updates stream = false ∧ entry.deletes stream = false := by
  unfold creates updates deletes
  cases granted : entry.granted? with
  | none => exact ⟨rfl, rfl, rfl⟩
  | some operation =>
    have other := others operation granted
    cases operation <;> simp_all [Operation.stream?]

theorem granted?_eq_some {before : Catalog} {settings : Settings} {operation asked : Operation}
    {result : Except Error Bool} :
    granted? ⟨before, .lifecycle settings operation, .lifecycle result⟩ = some asked ↔
      operation = asked ∧ result = .ok true := by
  rcases result with error | _ | _ <;> simp [granted?]

theorem idle_of_silent (entry : Entry) (silent : entry.reply.Silent) :
    entry.granted? = none ∧
      ∀ handle, entry.opens handle = false ∧ entry.writes handle = false := by
  obtain ⟨before, call, reply⟩ := entry
  cases reply with
  | lifecycle result => exact silent.elim
  | opened result =>
    cases result with
    | ok opened => exact silent.elim
    | error failure => cases call <;> exact ⟨rfl, fun handle => ⟨rfl, rfl⟩⟩
  | written result =>
    cases result with
    | ok position => exact silent.elim
    | error failure => cases call <;> exact ⟨rfl, fun handle => ⟨rfl, rfl⟩⟩
  | appended offset => exact silent.elim
  | query | stale | events | counted | usedSegments | noWriter =>
    cases call <;> exact ⟨rfl, fun handle => ⟨rfl, rfl⟩⟩

end Entry

structure Entry.Carries (stream : StreamId) (entry : Entry) (record later : StreamRecord) :
    Prop where
  generation : later.generation = record.generation + if entry.creates stream then 1 else 0
  epoch : entry.creates stream = false →
    later.epoch = record.epoch + if entry.updates stream then 1 else 0
  renewed : entry.creates stream = true → record.state = .deleted
  ended : entry.fails = false → entry.creates stream = false →
    (later.state = .deleted ↔ entry.deletes stream = true ∨ record.state = .deleted)

namespace Entry.Carries

variable {stream : StreamId} {entry : Entry} {record : StreamRecord}

theorem of_untouched (others : ∀ operation, entry.granted? = some operation →
    operation.stream? ≠ some stream) : entry.Carries stream record record := by
  obtain ⟨creates, updates, deletes⟩ := entry.untouched others
  constructor <;> simp [creates, updates, deletes]

theorem of_none (none : entry.granted? = none) : entry.Carries stream record record :=
  of_untouched (by simp [none])

end Entry.Carries

theorem StreamMove.carries {event : Event} {entry : Entry} {stream : StreamId}
    {record : StreamRecord} {current next : Option StreamRecord}
    (move : StreamMove event stream current next) (found : current = some record)
    (granted : ∀ operation, entry.granted? = some operation ↔
      event.operation = operation ∧ event.result = .ok true)
    (refused : entry.fails = false → event.result ≠ .ok true → next = current) :
    ∃ later, next = some later ∧ entry.Carries stream record later := by
  cases move with
  | kept idle =>
    refine ⟨record, found, .of_untouched fun operation told here => ?_⟩
    obtain ⟨asked, done⟩ := (granted operation).mp told
    exact idle (asked.symm ▸ here) done
  | created asked done => cases found
  | recreated asked done reusable =>
    cases found
    have told := (granted _).mpr ⟨asked, done⟩
    have creates : entry.creates stream = true := by simp [Entry.creates, told]
    exact ⟨_, rfl, by simp [creates], by simp [creates], fun _ => rfl, by simp [creates]⟩
  | updated asked done =>
    cases found
    have told := (granted _).mpr ⟨asked, done⟩
    refine ⟨_, rfl, ?_⟩
    constructor <;> simp [Entry.creates, Entry.updates, Entry.deletes, told]
  | sealed asked done =>
    cases found
    have told := (granted _).mpr ⟨asked, done⟩
    refine ⟨_, rfl, ?_⟩
    constructor <;> simp [Entry.creates, Entry.updates, Entry.deletes, told]
  | deleted asked =>
    cases found
    have neither : entry.creates stream = false ∧ entry.updates stream = false := by
      cases told : entry.granted? with
      | none => simp [Entry.creates, Entry.updates, told]
      | some operation =>
        have deletion := ((granted operation).mp told).1.symm.trans asked
        simp [Entry.creates, Entry.updates, told, deletion]
    obtain ⟨creates, updates⟩ := neither
    refine ⟨_, rfl, by simp [creates], by simp [updates], by simp [creates], fun steady _ => ?_⟩
    -- The mark would not be there if the deletion had not been granted.
    by_cases done : event.result = .ok true
    · have told := (granted _).mpr ⟨asked, done⟩
      simp [Entry.deletes, told]
    · cases refused steady done

section Steps

variable {hash : String → UInt64} {catalog later : Catalog} {call : Call} {reply : Reply}
  {stream : StreamId} {record : StreamRecord}

theorem Attempt.carries (attempt : Attempt)
    (found : catalog.store.stream? stream = some record) :
    ∃ next, (attempt.after catalog.store).stream? stream = some next ∧
      Entry.Carries stream ⟨catalog, .lifecycle attempt.settings attempt.operation,
        .lifecycle (attempt.run catalog.store).1⟩ record next := by
  refine (attempt.move catalog.store stream).carries found
    (fun operation => Entry.granted?_eq_some) fun steady other => ?_
  have untouched : (attempt.run catalog.store).2.store = catalog.store := by
    refine attempt.store_of_refused catalog.store other fun failure told => ?_
    simp [Entry.fails, told] at steady
  exact congrArg (Store.stream? · stream) untouched

theorem Step.carries (step : Step hash catalog call reply later)
    (found : catalog.store.stream? stream = some record) :
    ∃ next, later.store.stream? stream = some next ∧
      Entry.Carries stream ⟨catalog, call, reply⟩ record next := by
  cases step with
  | operated attempt => exact attempt.carries found
  | opened _ _ => exact ⟨record, found, .of_none rfl⟩
  | wrote _ _ _ _ _ => exact ⟨record, found, .of_none rfl⟩
  | appended => exact ⟨record, found, .of_none rfl⟩
  | idle silent => exact ⟨record, found, .of_none (Entry.idle_of_silent _ silent).1⟩

end Steps

/-- The calls since the writer with this handle was opened, the latest first. -/
def sinceOpened (handle : Nat) (past : List Entry) : List Entry :=
  past.takeWhile fun entry => !entry.opens handle

/-- The calls since it was opened or last wrote an event, whichever is later. -/
def sinceSynced (handle : Nat) (past : List Entry) : List Entry :=
  past.takeWhile fun entry => !(entry.opens handle || entry.writes handle)

section Since

variable {handle : Nat} {entry : Entry} (past : List Entry)

theorem sinceOpened_of_opens (opens : entry.opens handle = true) :
    sinceOpened handle (entry :: past) = [] := by
  simp [sinceOpened, opens]

theorem sinceOpened_cons (unopened : entry.opens handle = false) :
    sinceOpened handle (entry :: past) = entry :: sinceOpened handle past := by
  simp [sinceOpened, unopened]

theorem sinceSynced_of_opens (opens : entry.opens handle = true) :
    sinceSynced handle (entry :: past) = [] := by
  simp [sinceSynced, opens]

theorem sinceSynced_of_writes (writes : entry.writes handle = true) :
    sinceSynced handle (entry :: past) = [] := by
  simp [sinceSynced, writes]

theorem sinceSynced_cons (unopened : entry.opens handle = false)
    (unwritten : entry.writes handle = false) :
    sinceSynced handle (entry :: past) = entry :: sinceSynced handle past := by
  simp [sinceSynced, unopened, unwritten]

end Since

/-- How far the record of a stream has moved on from the life that a writer was opened on. -/
structure Incarnation.Trails (incarnation : Incarnation) (handle : Nat) (past : List Entry)
    (record : StreamRecord) : Prop where
  generation : record.generation = incarnation.generation +
    (sinceOpened handle past).countP (Entry.creates incarnation.stream)
  ended : (∀ entry ∈ sinceOpened handle past, entry.fails = false) →
    ((∃ entry ∈ sinceOpened handle past, entry.deletes incarnation.stream = true) ↔
      incarnation.generation < record.generation ∨ record.state = .deleted)

/-- While that life lasts, its record counts the updates that the writer has missed. -/
def Writer.Trails (writer : Writer) (handle : Nat) (past : List Entry) (record : StreamRecord) :
    Prop :=
  record.generation = writer.generation →
    record.epoch = writer.epoch + (sinceSynced handle past).countP (Entry.updates writer.stream)

section Trails

variable {handle : Nat} {past : List Entry} {entry : Entry} {record next : StreamRecord}

theorem Incarnation.Trails.least {incarnation : Incarnation}
    (trails : incarnation.Trails handle past record) :
    incarnation.generation ≤ record.generation :=
  trails.generation ▸ Nat.le_add_right ..

theorem Incarnation.Trails.opened {incarnation : Incarnation}
    (since : sinceOpened handle past = []) (same : record.generation = incarnation.generation)
    (active : record.state = .active) : incarnation.Trails handle past record := by
  constructor
  · simp [since, same]
  · simp [since, same, active]

theorem Writer.Trails.synced {writer : Writer} (since : sinceSynced handle past = [])
    (same : writer.epoch = record.epoch) : writer.Trails handle past record := by
  intro generation
  simp [since, same]

theorem Writer.epoch_of_refreshed {hash : String → UInt64} {writer : Writer} {events : EventStore}
    {routingKey : String} {event : Payload} {placed : Position × Writer × EventStore}
    (put : (writer.refreshed record).place hash events routingKey event = placed) :
    placed.2.1.epoch = record.epoch := by
  have epoch : (writer.refreshed record).epoch = record.epoch := by
    unfold refreshed
    split
    · exact Eq.symm ‹_›
    · rfl
  rw [← put]
  exact epoch

theorem Incarnation.Trails.carried {incarnation : Incarnation}
    (trails : incarnation.Trails handle past record) (unopened : entry.opens handle = false)
    (carries : entry.Carries incarnation.stream record next) :
    incarnation.Trails handle (entry :: past) next := by
  have generation := trails.generation
  have moved := carries.generation
  constructor
  · rw [sinceOpened_cons past unopened, List.countP_cons]
    omega
  · intro steady
    rw [sinceOpened_cons past unopened] at steady ⊢
    obtain ⟨calm, earlier⟩ := List.forall_mem_cons.mp steady
    have before := trails.ended earlier
    simp only [List.mem_cons, exists_eq_or_imp, before]
    cases creates : entry.creates incarnation.stream with
    | true =>
      -- The name was free again, so the life before the new one had been deleted.
      rw [creates, if_pos rfl] at moved
      have later : incarnation.generation < next.generation := by omega
      exact iff_of_true (.inr (.inr (carries.renewed creates))) (.inl later)
    | false =>
      simp only [creates, Bool.false_eq_true, if_false, Nat.add_zero] at moved
      rw [moved, carries.ended calm creates, or_left_comm]

theorem Writer.Trails.carried {writer : Writer} (trails : writer.Trails handle past record)
    (unopened : entry.opens handle = false) (unwritten : entry.writes handle = false)
    (least : writer.generation ≤ record.generation)
    (carries : entry.Carries writer.stream record next) :
    writer.Trails handle (entry :: past) next := by
  intro same
  have moved := carries.generation
  rw [sinceSynced_cons past unopened unwritten, List.countP_cons]
  cases creates : entry.creates writer.stream with
  | true =>
    rw [creates, if_pos rfl] at moved
    omega
  | false =>
    simp only [creates, Bool.false_eq_true, if_false, Nat.add_zero] at moved
    have epoch := carries.epoch creates
    have before := trails (moved.symm.trans same)
    omega

end Trails

def Catalog.Trailed (past : List Entry) (catalog : Catalog) : Prop :=
  ∀ (handle : Nat) (opened : OpenWriter), catalog.path.writers[handle]? = some opened →
    ∃ record, catalog.store.stream? opened.writer.stream = some record ∧
      opened.writer.incarnation.Trails handle past record ∧ opened.writer.Trails handle past record

section Steps

variable {hash : String → UInt64} {catalog later : Catalog} {call : Call} {reply : Reply}
  {past : List Entry} {handle : Nat} {opened : OpenWriter}

theorem Catalog.Trailed.carried (trailed : catalog.Trailed past)
    (known : catalog.path.writers[handle]? = some opened)
    (moved : ∀ stream record, catalog.store.stream? stream = some record →
      ∃ next, later.store.stream? stream = some next ∧
        Entry.Carries stream ⟨catalog, call, reply⟩ record next)
    (unopened : Entry.opens handle ⟨catalog, call, reply⟩ = false)
    (unwritten : Entry.writes handle ⟨catalog, call, reply⟩ = false) :
    ∃ record, later.store.stream? opened.writer.stream = some record ∧
      opened.writer.incarnation.Trails handle (⟨catalog, call, reply⟩ :: past) record ∧
      opened.writer.Trails handle (⟨catalog, call, reply⟩ :: past) record := by
  obtain ⟨record, found, life, epoch⟩ := trailed handle opened known
  obtain ⟨next, stands, carries⟩ := moved _ record found
  exact ⟨next, stands, life.carried unopened carries,
    epoch.carried unopened unwritten life.least carries⟩

theorem Step.trailed (step : Step hash catalog call reply later)
    (trailed : catalog.Trailed past) : later.Trailed (⟨catalog, call, reply⟩ :: past) := by
  intro handle opened known
  have moved (stream : StreamId) (record : StreamRecord)
      (found : catalog.store.stream? stream = some record) := step.carries found
  cases step with
  | operated attempt => exact trailed.carried known moved rfl rfl
  | @opened client stream record found active =>
    rw [DataPath.writers_addWriter] at known
    split at known
    · rename_i here
      subst here
      cases known
      have opens : Entry.opens catalog.path.writers.size
          ⟨catalog, .openWriter client stream, .opened (.ok catalog.path.writers.size)⟩ = true :=
        decide_eq_true rfl
      exact ⟨record, found, .opened (sinceOpened_of_opens past opens) rfl active,
        .synced (sinceSynced_of_opens past opens) rfl⟩
    · rename_i other
      exact trailed.carried known moved (decide_eq_false (Ne.symm other)) rfl
  | @wrote written routingKey event writing record placed present found active same put =>
    rw [DataPath.writers_keepWrite present] at known
    split at known
    · rename_i here
      subst here
      cases known
      obtain ⟨current, stands, life, -⟩ := trailed written writing present
      cases found.symm.trans stands
      have puts := Writer.puts_of_refreshed put
      have carried : writing.writer.incarnation.Trails written (⟨catalog,
          .write written routingKey event, .written (.ok placed.1)⟩ :: past) record :=
        life.carried rfl (.of_none rfl)
      refine ⟨record, ?_, puts.incarnation ▸ carried,
        .synced (sinceSynced_of_writes past (decide_eq_true rfl)) (Writer.epoch_of_refreshed put)⟩
      exact (congrArg (catalog.store.stream? ·.stream) puts.incarnation).trans found
    · rename_i other
      exact trailed.carried known moved rfl (decide_eq_false other)
  | appended => exact trailed.carried known moved rfl rfl
  | @idle call reply silent =>
    obtain ⟨unopened, unwritten⟩ := (Entry.idle_of_silent ⟨_, call, reply⟩ silent).2 handle
    exact trailed.carried known moved unopened unwritten

end Steps

/-- Whether a life goes on: its stream has been neither deleted nor created again. -/
def Incarnation.Lives (incarnation : Incarnation) (store : Store) : Prop :=
  ∃ record, store.stream? incarnation.stream = some record ∧
    record.generation = incarnation.generation ∧ record.Live

section Trails

variable {handle : Nat} {past : List Entry} {record : StreamRecord}

theorem Incarnation.Trails.recreated_iff {incarnation : Incarnation}
    (trails : incarnation.Trails handle past record) :
    (∃ entry ∈ sinceOpened handle past, entry.creates incarnation.stream = true) ↔
      incarnation.generation < record.generation := by
  rw [trails.generation, ← List.countP_pos_iff]
  omega

theorem Incarnation.Trails.lives_iff {incarnation : Incarnation} {store : Store}
    (trails : incarnation.Trails handle past record)
    (found : store.stream? incarnation.stream = some record) :
    ¬ incarnation.Lives store ↔
      incarnation.generation < record.generation ∨ record.state = .deleted := by
  have least := trails.least
  have lives : incarnation.Lives store ↔
      record.generation = incarnation.generation ∧ record.Live := by
    simp [Incarnation.Lives, found]
  rw [lives, record.live_iff]
  by_cases deleted : record.state = .deleted
  · simp [deleted]
  · simp only [deleted, ne_eq, not_false_eq_true, and_true, or_false]
    omega

theorem Writer.Trails.outdated_iff {writer : Writer} (trails : writer.Trails handle past record)
    (life : writer.incarnation.Trails handle past record) :
    writer.outdated (some record) = true ↔
      (∃ entry ∈ sinceSynced handle past, entry.updates writer.stream = true) ∨
        ∃ entry ∈ sinceOpened handle past, entry.creates writer.stream = true := by
  have recreated : (∃ entry ∈ sinceOpened handle past, entry.creates writer.stream = true) ↔
      writer.generation < record.generation := life.recreated_iff
  have least : writer.generation ≤ record.generation := life.least
  rw [recreated]
  simp only [Writer.outdated, ne_eq, Bool.or_eq_true, decide_eq_true_eq]
  by_cases same : record.generation = writer.generation
  · have epoch := trails same
    rw [← List.countP_pos_iff]
    omega
  · have later : writer.generation < record.generation := by omega
    exact iff_of_true (.inl same) (.inr later)

end Trails

namespace Course

variable {hash : String → UInt64} {past : List Entry} {catalog : Catalog}

theorem trailed (course : Course hash .empty past catalog) : catalog.Trailed past :=
  course.outlives .empty (fun past catalog => catalog.Trailed past)
    (fun _ _ known => nomatch known) fun _ _ _ _ _ _ step trailed => step.trailed trailed

/-- Whatever calls fail: a writer is stale exactly if its stream was updated since it last wrote, or
    created again since it was opened. As long as no failure is told, a stream was deleted since
    then exactly if the life that the writer was opened on is over. So a writer should be stale
    then, but one whose stream was deleted and not created again or updated before that is not. -/
theorem staleness_overlooks_deletion (course : Course hash .empty past catalog) {handle : Nat}
    {opened : OpenWriter} (known : catalog.path.writers[handle]? = some opened) :
    let stream := opened.writer.stream
    let updated := ∃ entry ∈ sinceSynced handle past, entry.updates stream = true
    let deleted := ∃ entry ∈ sinceOpened handle past, entry.deletes stream = true
    let recreated := ∃ entry ∈ sinceOpened handle past, entry.creates stream = true
    ∃ stale, catalog.perform hash (.isStale handle) = (.stale (.ok stale), catalog) ∧
      (stale = true ↔ updated ∨ recreated) ∧
      ((∀ entry ∈ sinceOpened handle past, entry.fails = false) →
        (deleted ↔ ¬ opened.writer.incarnation.Lives catalog.store) ∧
        ((stale = true ↔ updated ∨ deleted) ↔ ¬ (deleted ∧ ¬ recreated ∧ ¬ updated))) := by
  intro stream updated deleted recreated
  obtain ⟨record, found, life, trails⟩ := course.trailed handle opened known
  have told : opened.writer.outdated (catalog.store.stream? stream) = true ↔
      updated ∨ recreated := by
    rw [found]
    exact trails.outdated_iff life
  refine ⟨_, catalog.perform_isStale hash (course.filed .empty) known, told, fun steady => ?_⟩
  have ended := life.ended steady
  have before (again : recreated) : deleted := ended.mpr (.inl (life.recreated_iff.mp again))
  refine ⟨ended.trans (life.lives_iff found).symm, ?_⟩
  rw [told]
  constructor
  · rintro same ⟨gone, last, current⟩
    exact (same.mpr (.inr gone)).elim current last
  · intro seen
    by_cases current : updated
    · exact iff_of_true (.inl current) (.inl current)
    · refine or_congr_right ⟨before, fun gone => ?_⟩
      by_cases again : recreated
      · exact again
      · exact absurd ⟨gone, again, current⟩ seen

def laggingWriter : List Turn :=
  [.lifecycle {} (.createScope "s"), .lifecycle {} (.createStream ⟨"s", "a"⟩ {}),
    .openWriter 0 ⟨"s", "a"⟩, .lifecycle {} (.updateStream ⟨"s", "a"⟩ (.fixed 2)),
    .write 0 "k" [1], .lifecycle {} (.updateStream ⟨"s", "a"⟩ (.fixed 3)),
    .lifecycle {} (.sealStream ⟨"s", "a"⟩), .lifecycle {} (.deleteStream ⟨"s", "a"⟩)].map
      fun call => ⟨call, fun _ => none⟩

theorem staleness_overlooks_deletion_but_not_updates :
    ∃ past catalog opened, Course textHash .empty past catalog ∧
      catalog.path.writers[0]? = some opened ∧
      ¬ opened.writer.incarnation.Lives catalog.store ∧
      catalog.perform textHash (.isStale 0) = (.stale (.ok true), catalog) := by
  have course : Course textHash .empty _ _ := Course.inOrder .start laggingWriter
  have known : (Turn.inOrder (Turn.run textHash) laggingWriter .empty).2.path.writers[0]? =
      some ⟨0, ⟨⟨"s", "a"⟩, 0, 1, 2, 1⟩⟩ := by rfl
  obtain ⟨stale, answered, told, steady⟩ := staleness_overlooks_deletion course known
  cases told.mpr (.inl (by decide))
  exact ⟨_, _, _, course, known, (steady (by decide)).1.mp (by decide), answered⟩

/-- A writer whose stream is deleted for good. -/
def bereftWriter : List Turn :=
  [.lifecycle {} (.createScope "s"), .lifecycle {} (.createStream ⟨"s", "a"⟩ {}),
    .openWriter 0 ⟨"s", "a"⟩, .lifecycle {} (.sealStream ⟨"s", "a"⟩),
    .lifecycle {} (.deleteStream ⟨"s", "a"⟩)].map fun call => ⟨call, fun _ => none⟩

theorem writer_of_deleted_stream_is_not_stale :
    ∃ past catalog opened, Course textHash .empty past catalog ∧
      catalog.path.writers[0]? = some opened ∧
      (∃ entry ∈ sinceOpened 0 past, entry.deletes opened.writer.stream = true) ∧
      ¬ opened.writer.incarnation.Lives catalog.store ∧
      (catalog.perform textHash (.query (.streamExists ⟨"s", "a"⟩))).1 =
        .query (.ok (.flag false)) ∧
      catalog.perform textHash (.isStale 0) = (.stale (.ok false), catalog) := by
  have course : Course textHash .empty _ _ := Course.inOrder .start bereftWriter
  have stands : (Turn.inOrder (Turn.run textHash) bereftWriter .empty).2.store.stream? ⟨"s", "a"⟩ =
      some ⟨.deleted, {}, 0, 0⟩ := by rfl
  refine ⟨_, _, ⟨0, ⟨⟨"s", "a"⟩, 0, 0, 1, 0⟩⟩, course, by rfl, by decide, ?_, by rfl, by rfl⟩
  rintro ⟨record, found, -, live⟩
  cases stands.symm.trans found
  rcases live with live | live <;> cases live

end Course

end StreamCatalog
