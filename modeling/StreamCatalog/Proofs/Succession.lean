import StreamCatalog.Proofs.Course
import StreamCatalog.Proofs.StreamHistory

namespace StreamCatalog

/-- Whether a record may stand later than another in the history of its stream. The configuration
    stays as long as the generation and the epoch do. -/
def StreamRecord.Precedes (record later : StreamRecord) : Prop :=
  record.generation < later.generation ∨
    record.generation = later.generation ∧
      (record.epoch < later.epoch ∨ record.epoch = later.epoch ∧ record.config = later.config)

namespace StreamRecord.Precedes

variable {record middle later : StreamRecord}

theorem refl (record : StreamRecord) : record.Precedes record := .inr ⟨rfl, .inr ⟨rfl, rfl⟩⟩

theorem trans (first : record.Precedes middle) (second : middle.Precedes later) :
    record.Precedes later := by
  rcases first with below | ⟨generation, first⟩
  · left
    rcases second with more | ⟨same, -⟩ <;> omega
  · rcases second with more | ⟨same, second⟩
    · left
      omega
    · right
      refine ⟨generation.trans same, ?_⟩
      rcases first with below | ⟨epoch, config⟩
      · left
        rcases second with more | ⟨same, -⟩ <;> omega
      · rcases second with more | ⟨same, kept⟩
        · left
          omega
        · exact .inr ⟨epoch.trans same, config.trans kept⟩

theorem generation_le (precedes : record.Precedes later) :
    record.generation ≤ later.generation := by
  rcases precedes with below | ⟨same, -⟩ <;> omega

theorem config_eq (precedes : record.Precedes later)
    (generation : record.generation = later.generation) (epoch : record.epoch = later.epoch) :
    record.config = later.config := by
  rcases precedes with below | ⟨-, below | ⟨-, config⟩⟩
  · omega
  · omega
  · exact config

end StreamRecord.Precedes

theorem StreamMove.precedes {event : Event} {stream : StreamId}
    {current next : Option StreamRecord} {record : StreamRecord}
    (move : StreamMove event stream current next) (found : current = some record) :
    ∃ later, next = some later ∧ record.Precedes later := by
  cases move with
  | kept idle => exact ⟨record, found, .refl record⟩
  | created asked done => cases found
  | recreated asked done reusable =>
    cases found
    exact ⟨_, rfl, .inl (Nat.lt_succ_self _)⟩
  | updated asked done =>
    cases found
    exact ⟨_, rfl, .inr ⟨rfl, .inl (Nat.lt_succ_self _)⟩⟩
  | sealed asked done =>
    cases found
    exact ⟨_, rfl, .inr ⟨rfl, .inr ⟨rfl, rfl⟩⟩⟩
  | deleted asked =>
    cases found
    exact ⟨_, rfl, .inr ⟨rfl, .inr ⟨rfl, rfl⟩⟩⟩

theorem Step.precedes {hash : String → UInt64} {catalog later : Catalog} {call : Call}
    {reply : Reply} {stream : StreamId} {record : StreamRecord}
    (step : Step hash catalog call reply later)
    (found : catalog.store.stream? stream = some record) :
    ∃ next, later.store.stream? stream = some next ∧ record.Precedes next := by
  rcases step.store with same | ⟨attempt, -, -, same⟩
  · exact ⟨record, by rw [same, found], .refl record⟩
  · rw [same]
    exact (attempt.move catalog.store stream).precedes found

namespace Course

variable {hash : String → UInt64} {start catalog : Catalog} {past : List Entry} {stream : StreamId}

theorem past_precedes (course : Course hash start past catalog) (filed : start.store.Filed) :
    ∀ entry ∈ past, ∀ record, entry.before.store.stream? stream = some record →
      ∃ last, catalog.store.stream? stream = some last ∧ record.Precedes last := by
  refine course.outlives filed (fun past catalog =>
    ∀ entry ∈ past, ∀ record, entry.before.store.stream? stream = some record →
      ∃ last, catalog.store.stream? stream = some last ∧ record.Precedes last) (by simp) ?_
  intro past catalog call reply later filed step earlier entry member record found
  rcases List.mem_cons.mp member with rfl | member
  · exact step.precedes found
  · obtain ⟨last, present, grown⟩ := earlier entry member record found
    obtain ⟨next, kept, more⟩ := step.precedes present
    exact ⟨next, kept, grown.trans more⟩

theorem past_ordered (course : Course hash start past catalog) (filed : start.store.Filed) :
    ∀ first ∈ past, ∀ second ∈ past, ∀ record other,
      first.before.store.stream? stream = some record →
      second.before.store.stream? stream = some other →
      record.Precedes other ∨ other.Precedes record := by
  induction course with
  | start => simp
  | turn course turn ih =>
    intro first isFirst second isSecond record other found present
    -- The latest call met what stood last, which all that was met earlier comes before.
    rcases List.mem_cons.mp isFirst with rfl | isFirst
    · rcases List.mem_cons.mp isSecond with rfl | isSecond
      · cases found.symm.trans present
        exact .inl (.refl record)
      · obtain ⟨last, stands, before⟩ := course.past_precedes filed second isSecond other present
        cases found.symm.trans stands
        exact .inr before
    · rcases List.mem_cons.mp isSecond with rfl | isSecond
      · obtain ⟨last, stands, before⟩ := course.past_precedes filed first isFirst record found
        cases present.symm.trans stands
        exact .inl before
      · exact ih first isFirst second isSecond record other found present

end Course

end StreamCatalog
