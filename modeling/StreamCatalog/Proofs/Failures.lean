import StreamCatalog.Hash.Text
import StreamCatalog.Proofs.WellFormed

namespace StreamCatalog

def Error.failure? : Error → Option StoreFailure
  | .store failure => some failure
  | _ => none

def WriteError.failure? : WriteError → Option StoreFailure
  | .control error => error.failure?
  | _ => none

def Reply.failure? : Reply → Option StoreFailure
  | .lifecycle (.error error) | .query (.error error) => error.failure?
  | .opened (.error error) | .written (.error error) | .stale (.error error) => error.failure?
  | _ => none

/-- An action that leaves filed records filed, and blames the store for nothing but an outage. -/
def Trusts (blame : ε → Option StoreFailure) (action : ExceptT ε Plan α) : Prop :=
  ∀ (outages : Outages) (world : UnsteadyStore), world.store.Filed →
    (action.run.run (UnsteadyStore.service outages) world).2.store.Filed ∧
    ∀ error failure, (action.run.run (UnsteadyStore.service outages) world).1 = .error error →
      blame error = some failure → ∃ text, failure = .unavailable text

namespace Trusts

variable {blame : ε → Option StoreFailure}

theorem answer (answer : α) : Trusts blame (pure answer) := fun _ _ filed => ⟨filed, nofun⟩

theorem fail {error : ε} (harmless : blame error = none) :
    Trusts blame (throw error : ExceptT ε Plan α) := by
  refine fun _ _ filed => ⟨filed, fun other failure same blamed => ?_⟩
  cases same
  exact nomatch harmless.symm.trans blamed

theorem call {fetch : Fetch α} (called : ∀ (outages : Outages) (world : UnsteadyStore),
    world.store.Filed → ∃ answer, fetch.run.run (UnsteadyStore.service outages) world =
      match outages world.calls with
      | some text => (.error (.unavailable text), world.next)
      | none => (.ok answer, world.next)) : Trusts some fetch := by
  intro outages world filed
  obtain ⟨answer, ran⟩ := called outages world filed
  rw [ran]
  cases outages world.calls with
  | some text =>
    refine ⟨filed, fun error failure same blamed => ⟨text, ?_⟩⟩
    cases same
    exact (Option.some.inj blamed).symm
  | none => exact ⟨filed, nofun⟩

theorem sequence {first : ExceptT ε Plan α} {rest : α → ExceptT ε Plan β}
    (trusts : Trusts blame first) (others : ∀ answer, Trusts blame (rest answer)) :
    Trusts blame (first >>= rest) := by
  intro outages world filed
  have began := trusts outages world filed
  rw [run_sequence]
  generalize first.run.run (UnsteadyStore.service outages) world = done at began
  obtain ⟨_ | answer, later⟩ := done
  · refine ⟨began.1, fun error failure same => ?_⟩
    cases same
    exact began.2 _ failure rfl
  · exact others answer outages later began.1

theorem adapt (wrap : StoreFailure → ε) (wrapped : ∀ failure, blame (wrap failure) = some failure)
    {fetch : Fetch α} (trusts : Trusts some fetch) : Trusts blame (ExceptT.adapt wrap fetch) := by
  intro outages world filed
  have began := trusts outages world filed
  have ran : (ExceptT.adapt wrap fetch).run.run (UnsteadyStore.service outages) world =
      ((fetch.run.run (UnsteadyStore.service outages) world).1.mapError wrap,
        (fetch.run.run (UnsteadyStore.service outages) world).2) :=
    Plan.run_bind (UnsteadyStore.service outages) fetch _ world
  rw [ran]
  generalize fetch.run.run (UnsteadyStore.service outages) world = done at began
  obtain ⟨failure | answer, later⟩ := done
  · refine ⟨began.1, fun error other same blamed => ?_⟩
    cases same
    exact began.2 failure other rfl ((wrapped failure).symm.trans blamed)
  · exact ⟨began.1, nofun⟩

theorem fetch {fetch : Fetch α} (trusts : Trusts some fetch) :
    Trusts Error.failure? (liftM fetch : Action α) := adapt Error.store (fun _ => rfl) trusts

theorem lookUp {fetch : Fetch α} (trusts : Trusts some fetch) :
    Trusts WriteError.failure? (liftM fetch : WriterAction α) :=
  adapt (fun failure => WriteError.control (.store failure)) (fun _ => rfl) trusts

end Trusts

namespace Lookup

theorem scopeRecord_trusts (name : String) : Trusts some (scopeRecord name) := by
  refine .call fun outages world filed => ?_
  obtain ⟨current, read, -⟩ := filed.readScope name
  have ran := UnsteadyStore.run_scopeRecord outages world name
  rw [read] at ran
  exact ⟨current, ran.trans (by cases outages world.calls <;> rfl)⟩

theorem streamRecord_trusts (stream : StreamId) : Trusts some (streamRecord stream) := by
  refine .call fun outages world filed => ?_
  obtain ⟨current, read, -⟩ := filed.readStream stream
  have ran := UnsteadyStore.run_streamRecord outages world stream
  rw [read] at ran
  exact ⟨current, ran.trans (by cases outages world.calls <;> rfl)⟩

theorem scopeNames_trusts : Trusts some Fetch.scopeNames :=
  .call fun _ world _ => ⟨world.store.scopeNames, rfl⟩

theorem scopeExists_trusts (name : String) : Trusts some (scopeExists name) := by
  refine .sequence (scopeRecord_trusts name) fun current => ?_
  cases current <;> exact .answer _

theorem keepActive_trusts (names : List String) : Trusts some (keepActive names) := by
  induction names with
  | nil => exact .answer _
  | cons name rest ih =>
    exact .sequence (scopeExists_trusts name) fun _ => .sequence ih fun _ => .answer _

theorem streamInfo_trusts (stream : StreamId) : Trusts some (streamInfo stream) := by
  refine .sequence (streamRecord_trusts stream) fun current => ?_
  cases current <;> exact .answer _

end Lookup

open Lookup in
theorem Query.plan_trusts (query : Query) : Trusts Error.failure? query.plan := by
  cases query with
  | scopeExists scope => exact .sequence (.fetch (scopeExists_trusts scope)) fun _ => .answer _
  | scopeIsEmpty scope =>
    refine .sequence (.fetch (.sequence (scopeRecord_trusts scope) fun current => ?_))
      fun _ => .answer _
    cases current <;> exact .answer _
  | scopes =>
    refine .sequence (.fetch ?_) fun _ => .answer _
    exact .sequence scopeNames_trusts fun names =>
      .sequence (keepActive_trusts names) fun _ => .answer _
  | streams scope =>
    refine .sequence (.sequence (.fetch (scopeRecord_trusts scope)) fun current => ?_)
      fun _ => .answer _
    rcases current with _ | ⟨⟨_ | _, members⟩, version⟩
    · exact .fail rfl
    · exact .answer _
    · exact .fail rfl
  | streamExists stream =>
    refine .sequence (.fetch (.sequence (streamRecord_trusts stream) fun current => ?_))
      fun _ => .answer _
    cases current <;> exact .answer _
  | streamInfo stream => exact .sequence (.fetch (streamInfo_trusts stream)) fun _ => .answer _
  | streamIsActive stream =>
    refine .sequence (.fetch (.sequence (streamInfo_trusts stream) fun info => ?_))
      fun _ => .answer _
    cases info <;> exact .answer _

theorem Writer.isStale_trusts (writer : Writer) : Trusts WriteError.failure? writer.isStale := by
  refine .sequence (.lookUp (Lookup.streamInfo_trusts writer.stream)) fun info => ?_
  cases info <;> exact .answer _

theorem Error.failure?_eq_some {error : Error} {failure : StoreFailure}
    (blamed : error.failure? = some failure) : error = .store failure := by
  cases error <;> simp_all [Error.failure?]

namespace Verdict

def failure? : Verdict → Option StoreFailure
  | refuse error => error.failure?
  | idle | one _ | both _ _ _ => none

theorem failure?_of_result {verdict : Verdict} {failure : StoreFailure}
    (failed : verdict.result = .error (.store failure)) : verdict.failure? = some failure := by
  cases verdict with
  | refuse error =>
    cases failed
    rfl
  | idle => cases failed
  | one write => cases failed
  | both first undo second => cases failed

end Verdict

namespace Operation

open Verdict

variable {store : Store} (filed : store.Filed)

include filed

theorem verdictOnValid_failure? (settings : Settings) (operation : Operation) :
    (operation.verdictOnValid settings store).failure? = none := by
  cases operation with
  | createScope name =>
    rw [verdictOnValid, onScope_filed filed]
    rcases store.scope? name with _ | ⟨_ | _, members⟩ <;> rfl
  | deleteScope name =>
    rw [verdictOnValid, onScope_filed filed]
    rcases store.scope? name with _ | ⟨_ | _, members⟩
    · rfl
    · simp only [Verdict.deleteScope]
      split <;> rfl
    · rfl
  | createStream stream config =>
    rw [verdictOnValid, onScope_filed filed]
    rcases store.scope? stream.scope with _ | ⟨_ | _, members⟩
    · rfl
    · simp only [Verdict.createStream, onStream_filed filed, enroll]
      split <;> rfl
    · rfl
  | updateStream stream config =>
    rw [verdictOnValid, onStream_filed filed]
    rcases store.stream? stream with _ | ⟨_ | _ | _, previous, epoch, generation⟩ <;> rfl
  | sealStream stream =>
    rw [verdictOnValid, onStream_filed filed]
    rcases store.stream? stream with _ | ⟨_ | _ | _, previous, epoch, generation⟩ <;> rfl
  | deleteStream stream =>
    rw [verdictOnValid, onStream_filed filed]
    rcases store.stream? stream with _ | ⟨_ | _ | _, config, epoch, generation⟩
    · rfl
    · rfl
    · simp only [Verdict.deleteStream, onScope_filed filed]
      rcases dismiss_cases stream ⟨.sealed, config, epoch, generation⟩
        (store.scope? stream.scope) with ⟨parent, -, -, same⟩ | ⟨-, same⟩ <;> rw [same] <;> rfl
    · rfl

theorem verdict_failure? (settings : Settings) (operation : Operation) :
    (operation.verdict settings store).failure? = none := by
  unfold verdict
  split
  · rename_i error checked
    refine Option.eq_none_iff_forall_ne_some.mpr fun failure blamed => ?_
    cases Error.failure?_eq_some blamed
    exact check_ne_store operation checked
  · exact verdictOnValid_failure? filed settings operation

end Operation

/-- An attempt that the store fails was cut off from it. -/
theorem Attempt.unavailable_of_failed (attempt : Attempt) {store : Store} (filed : store.Filed)
    {failure : StoreFailure} (failed : (attempt.run store).1 = .error (.store failure)) :
    ∃ text, failure = .unavailable text := by
  have outcome := attempt.outcome store
  generalize attempt.run store = ended at outcome failed
  cases outcome with
  | done calls =>
    have sound := Operation.verdict_failure? filed attempt.settings attempt.operation
    exact nomatch sound.symm.trans (Verdict.failure?_of_result failed)
  | @lost text call lost calls keys few =>
    cases failed
    exact ⟨text, rfl⟩
  | @undone text call lost first undo second two calls =>
    cases failed
    exact ⟨text, rfl⟩
  | @stranded text call lost first undo second two calls =>
    cases failed
    exact ⟨text, rfl⟩

theorem Writer.admission_unavailable {writer : Writer} {outage : Option String}
    {found : Option StreamRecord} {error : WriteError} {failure : StoreFailure}
    (refused : writer.admission outage found = .error error)
    (blamed : error.failure? = some failure) : ∃ text, failure = .unavailable text := by
  rcases outage with _ | text
  · rcases found with _ | record
    · cases refused
      cases blamed
    · simp only [admission] at refused
      split at refused
      · split at refused
        · cases refused
        · cases refused
          cases blamed
      · cases refused
        cases blamed
  · cases refused
    cases blamed
    exact ⟨text, rfl⟩

theorem Turn.unavailable_of_failed (hash : String → UInt64) (turn : Turn) {catalog : Catalog}
    (filed : catalog.store.Filed) {failure : StoreFailure}
    (told : (turn.run hash catalog).1.failure? = some failure) :
    ∃ text, failure = .unavailable text := by
  have start : (UnsteadyStore.mk catalog.store 0 []).store.Filed := filed
  obtain ⟨call, outages⟩ := turn
  cases call with
  | lifecycle settings operation =>
    rw [run_lifecycle] at told
    cases ended : (Attempt.run ⟨settings, operation, outages⟩ catalog.store).1 with
    | ok answer =>
      rw [ended] at told
      cases told
    | error error =>
      rw [ended] at told
      cases Error.failure?_eq_some told
      exact Attempt.unavailable_of_failed _ filed ended
  | query query =>
    rw [run_query] at told
    have trusted := query.plan_trusts outages _ start
    cases ended : (query.plan.run.attempt outages catalog.store).1 with
    | ok answer =>
      rw [ended] at told
      cases told
    | error error =>
      rw [ended] at told
      exact trusted.2 error failure ended told
  | openWriter client stream =>
    rw [run_openWriter hash outages filed] at told
    generalize outages 0 = outage, catalog.store.stream? stream = found at told
    rcases outage with _ | text
    · rcases found with _ | ⟨_ | _ | _, config, epoch, generation⟩ <;> cases told
    · cases told
      exact ⟨text, rfl⟩
  | write handle routingKey event =>
    cases known : catalog.path.writers[handle]? with
    | none =>
      simp only [run, Plan.attempt, DataPath.perform, DataPath.write, known] at told
      cases told
    | some writing =>
      rw [run_write hash outages filed known] at told
      cases admitted : writing.writer.admission (outages 0)
          (catalog.store.stream? writing.writer.stream) with
      | ok record =>
        rw [admitted] at told
        cases told
      | error error =>
        rw [admitted] at told
        exact Writer.admission_unavailable admitted told
  | isStale handle =>
    cases known : catalog.path.writers[handle]? with
    | none =>
      simp only [run, Plan.attempt, DataPath.perform, DataPath.isStale, known] at told
      cases told
    | some opened =>
      simp only [run, Plan.attempt, DataPath.perform, DataPath.isStale, known, run_then] at told
      have trusted := opened.writer.isStale_trusts outages _ start
      cases ended : (opened.writer.isStale.run.run (UnsteadyStore.service outages)
          { store := catalog.store }).1 with
      | ok answer =>
        rw [ended] at told
        cases told
      | error error =>
        rw [ended] at told
        exact trusted.2 error failure ended told
  | append client incarnation segment event => cases told
  | read client incarnation segment => cases told
  | countEvents client incarnation => cases told
  | usedSegments client incarnation => cases told

def Call.nameLimit : Call → Nat
  | .lifecycle settings _ => settings.maxNameLength
  | _ => 0

/-- The largest length of names among the settings that operations were called under. -/
def nameLimit (past : List Entry) : Nat := (past.map (·.call.nameLimit)).foldr max 0

section Steps

variable {hash : String → UInt64} {catalog later : Catalog} {call : Call} {reply : Reply}

theorem Step.wellFormed {limit : Nat} (step : Step hash catalog call reply later)
    (wide : call.nameLimit ≤ limit) (sound : catalog.store.WellFormed limit) :
    later.store.WellFormed limit := by
  rcases step.store with same | ⟨attempt, rfl, -, same⟩
  · rwa [same]
  · rw [same]
    exact attempt.wellFormed wide sound

/-- Whether no writer has an empty choice of segments. -/
def Catalog.Spread (catalog : Catalog) : Prop :=
  ∀ (handle : Nat) (opened : OpenWriter), catalog.path.writers[handle]? = some opened →
    1 ≤ opened.writer.segmentCount

theorem Step.spread (step : Step hash catalog call reply later)
    (segmented : catalog.store.Segmented) (spread : catalog.Spread) : later.Spread := by
  intro other opened present
  cases step with
  | operated attempt => exact spread other opened present
  | opened found active =>
    rw [DataPath.writers_addWriter] at present
    split at present
    · cases present
      exact segmented _ _ found
    · exact spread other opened present
  | @wrote handle routingKey event writing record placed known found active same put =>
    rw [DataPath.writers_keepWrite known] at present
    split at present
    · cases present
      cases put
      show 1 ≤ (writing.writer.refreshed record).segmentCount
      unfold Writer.refreshed
      split
      · exact spread handle writing known
      · exact segmented _ _ found
    · exact spread other opened present
  | appended => exact spread other opened present
  | idle silent => exact spread other opened present

end Steps

namespace Course

variable {hash : String → UInt64} {past : List Entry} {catalog : Catalog}

theorem wellFormed (course : Course hash .empty past catalog) :
    catalog.store.WellFormed (nameLimit past) := by
  refine course.outlives .empty (fun past catalog => catalog.store.WellFormed (nameLimit past))
    .empty ?_
  intro past catalog call reply later filed step sound
  exact step.wellFormed (Nat.le_max_left ..) (sound.mono (Nat.le_max_right ..))

theorem spread (course : Course hash .empty past catalog) : catalog.Spread := by
  have both := course.outlives .empty
    (fun _ catalog => catalog.store.Segmented ∧ catalog.Spread) ⟨.empty, ?_⟩ ?_
  · exact both.2
  · simp [Catalog.Spread, Catalog.empty, DataPath.empty]
  · rintro past catalog call reply later filed step ⟨segmented, spread⟩
    exact ⟨step.segmented segmented, step.spread segmented spread⟩

theorem unavailable_of_failed (course : Course hash .empty past catalog) :
    ∀ entry ∈ past, ∀ failure, entry.reply.failure? = some failure →
      ∃ text, failure = .unavailable text := by
  induction course with
  | start => simp
  | turn course turn ih =>
    intro entry member failure told
    rcases List.mem_cons.mp member with rfl | member
    · exact turn.unavailable_of_failed hash (course.filed .empty) told
    · exact ih entry member failure told

/-- In every course from the empty catalogue, whatever calls fail: the records are of the kinds that
    their keys name, with names within the largest limit that was in force and configurations that
    pass their check; every stream has a scope, and a deleted scope has no members. So no writer is
    without segments, and the store is never blamed but for being out of reach. -/
theorem records_are_well_formed (course : Course hash .empty past catalog) :
    catalog.store.WellFormed (nameLimit past) ∧
    (∀ (handle : Nat) (opened : OpenWriter), catalog.path.writers[handle]? = some opened →
      1 ≤ opened.writer.segmentCount) ∧
    (∀ entry ∈ past, ∀ failure, entry.reply.failure? = some failure →
      ∃ text, failure = .unavailable text) :=
  ⟨course.wellFormed, course.spread, course.unavailable_of_failed⟩

/-- Two controllers with different limits. The creation of the stream loses the write of its record
    and the one that was to take its name off the list again. -/
def strictAndLax : List Turn :=
  [⟨.lifecycle { maxNameLength := 2 } (.createScope "s"), fun _ => none⟩,
    ⟨.lifecycle { maxNameLength := 9 } (.createStream ⟨"s", "long"⟩ (.fixed 2)),
      fun call => if 3 ≤ call then some "down" else none⟩,
    ⟨.lifecycle { maxNameLength := 2 } (.createStream ⟨"s", "long"⟩ (.fixed 2)), fun _ => none⟩,
    ⟨.lifecycle { maxNameLength := 2 } (.createStream ⟨"s", "a"⟩ (.fixed 3)), fun _ => none⟩,
    ⟨.openWriter 0 ⟨"s", "a"⟩, fun _ => none⟩]

theorem records_are_well_formed_under_two_limits :
    ∃ past catalog, Course textHash .empty past catalog ∧ nameLimit past = 9 ∧
      (∃ parent, catalog.store.scope? "s" = some parent ∧ "long" ∈ parent.members ∧
        checkName 9 "long" = .ok ()) ∧
      (∃ opened, catalog.path.writers[0]? = some opened ∧ 1 ≤ opened.writer.segmentCount) := by
  have course : Course textHash .empty _ _ := Course.inOrder .start strictAndLax
  obtain ⟨sound, spread, -⟩ := records_are_well_formed course
  have listing : (Turn.inOrder (Turn.run textHash) strictAndLax .empty).2.store.scope? "s" =
      some ⟨.active, (∅ : Std.ExtTreeSet String).insertMany ["long", "a"]⟩ := by rfl
  have member : "long" ∈ (∅ : Std.ExtTreeSet String).insertMany ["long", "a"] := by decide
  exact ⟨_, _, course, by rfl, ⟨_, listing, member, (sound.scopes "s" _ listing).members _ member⟩,
    ⟨_, rfl, spread 0 _ rfl⟩⟩

end Course

end StreamCatalog
