import StreamCatalog.Proofs.Answers
import StreamCatalog.Proofs.ByteOrder

namespace StreamCatalog

namespace Store

def enumerating (names : List String) : Service Store :=
  { service with scopeNames := fun store => (.ok names, store) }

/-- Whether these are the names of all scopes on record, each of them once. -/
structure Enumerates (store : Store) (names : List String) : Prop where
  once : names.Nodup
  all : ∀ name, name ∈ names ↔ ∃ found, store.get (.scope name) = some found

theorem Enumerates.of_perm {store : Store} {names : List String}
    (same : names.Perm store.scopeNames) : store.Enumerates names := by
  constructor
  · exact same.nodup_iff.mpr store.nodup_scopeNames
  · intro name
    rw [same.mem_iff, store.mem_scopeNames]

/-- Whether a stream is on record under the name of a scope. -/
def isMisfiled (store : Store) (name : String) : Bool :=
  match store.value? (.scope name) with
  | some (.stream _) => true
  | some (.scope _) | none => false

def isActiveScope (store : Store) (name : String) : Bool :=
  (store.scope? name).any (·.state = .active)

variable (store : Store)

theorem isMisfiled_iff (name : String) :
    store.isMisfiled name = true ↔
      ∃ record, store.value? (.scope name) = some (.stream record) := by
  unfold isMisfiled
  rcases store.value? (.scope name) with _ | _ | record <;> simp

theorem isActiveScope_iff (name : String) :
    store.isActiveScope name = true ↔
      ∃ members, store.value? (.scope name) = some (.scope ⟨.active, members⟩) := by
  unfold isActiveScope scope?
  rcases store.value? (.scope name) with _ | ⟨_ | _, members⟩ | record <;> simp

section Runs

variable (names : List String)

theorem enumerating_scopeExists (name : String) :
    (Lookup.scopeExists name).run.run (enumerating names) store =
      if store.isMisfiled name then (.error (.unexpectedRecord (.scope name)), store)
      else (.ok (store.isActiveScope name), store) := by
  have call : (Fetch.get (.scope name)).run.run (enumerating names) store =
      (.ok (store.get (.scope name)), store) := rfl
  rw [Lookup.scopeExists, run_sequence, Lookup.scopeRecord, run_sequence, call]
  unfold isMisfiled isActiveScope scope? value?
  rcases store.get (.scope name) with _ | ⟨_ | record, version⟩ <;> rfl

/-- The first name whose record is of the wrong kind ends the lookups. -/
theorem enumerating_keepActive (listed : List String) :
    (Lookup.keepActive listed).run.run (enumerating names) store =
      match listed.find? store.isMisfiled with
      | some name => (.error (.unexpectedRecord (.scope name)), store)
      | none => (.ok (listed.filter store.isActiveScope), store) := by
  induction listed with
  | nil => rfl
  | cons name rest ih =>
    rw [Lookup.keepActive, run_sequence, enumerating_scopeExists]
    cases wrong : store.isMisfiled name with
    | true => simp only [List.find?_cons, wrong, if_true]
    | false =>
      simp only [List.find?_cons, wrong, Bool.false_eq_true, if_false]
      rw [run_sequence, ih]
      cases rest.find? store.isMisfiled with
      | some other => rfl
      | none =>
        simp only [List.filter_cons]
        rfl

theorem enumerating_scopes :
    Lookup.scopes.run.run (enumerating names) store =
      match names.find? store.isMisfiled with
      | some name => (.error (.unexpectedRecord (.scope name)), store)
      | none => (.ok (names.filter store.isActiveScope).mergeSort, store) := by
  have call : Fetch.scopeNames.run.run (enumerating names) store = (.ok names, store) := rfl
  rw [Lookup.scopes, run_sequence, call]
  simp only
  rw [run_sequence, enumerating_keepActive]
  cases names.find? store.isMisfiled <;> rfl

end Runs

theorem run_scopes_query (service : Service Store) :
    (Query.plan .scopes).run.run service store =
      ((Lookup.scopes.run.run service store).1.map Answer.names |>.mapError Error.store,
        (Lookup.scopes.run.run service store).2) := by
  rw [Query.plan, run_sequence, run_fetch]
  rcases Lookup.scopes.run.run service store with ⟨_ | listed, later⟩ <;> rfl

/-- All orders of the names lead to one list. -/
theorem Enumerates.sorted_filter {store : Store} {names : List String}
    (enumerated : store.Enumerates names) :
    (names.filter store.isActiveScope).mergeSort = store.activeScopes.mergeSort := by
  have same : names.Perm store.scopeNames := by
    apply (List.perm_ext_iff_of_nodup enumerated.once store.nodup_scopeNames).mpr
    intro name
    rw [enumerated.all, store.mem_scopeNames]
  exact mergeSort_eq_of_perm (same.filter store.isActiveScope)

/-- Whatever a store holds, and in whatever order it names its scopes: if all their records are of
    the right kind, the list of scopes has the active ones in increasing order. If not, the answer
    tells of the first one that is not. -/
theorem listing_ignores_enumeration :
    ((∀ name record, store.value? (.scope name) = some record → ∃ scope, record = .scope scope) →
      ∃ listed : List String, listed.Pairwise (fun a b => bytes a < bytes b) ∧
        (∀ name, name ∈ listed ↔
          ∃ members, store.value? (.scope name) = some (.scope ⟨.active, members⟩)) ∧
        ∀ names, store.Enumerates names →
          Lookup.scopes.run.run (enumerating names) store = (.ok listed, store) ∧
          (Query.plan .scopes).run.run (enumerating names) store = (.ok (.names listed), store)) ∧
    ((∃ name record, store.value? (.scope name) = some (.stream record)) →
      ∀ names, store.Enumerates names →
        ∃ before name after, names = before ++ name :: after ∧
          (∀ other ∈ before, ∃ scope, store.value? (.scope other) = some (.scope scope)) ∧
          (∃ record, store.value? (.scope name) = some (.stream record)) ∧
          Lookup.scopes.run.run (enumerating names) store =
            (.error (.unexpectedRecord (.scope name)), store) ∧
          (Query.plan .scopes).run.run (enumerating names) store =
            (.error (.store (.unexpectedRecord (.scope name))), store)) := by
  constructor
  · intro kinds
    have active : store.activeScopes.Nodup := store.nodup_scopeNames.filter _
    refine ⟨store.activeScopes.mergeSort, mergeSort_increasing active, ?_, ?_⟩
    · intro name
      rw [List.mem_mergeSort, mem_activeScopes]
      exact store.isActiveScope_iff name
    · intro names enumerated
      have none : names.find? store.isMisfiled = none := by
        rw [List.find?_eq_none]
        intro name _ wrong
        obtain ⟨record, found⟩ := (store.isMisfiled_iff name).mp wrong
        obtain ⟨scope, kind⟩ := kinds name _ found
        cases kind
      have listed := store.enumerating_scopes names
      rw [none] at listed
      simp only [enumerated.sorted_filter] at listed
      rw [run_scopes_query, listed]
      exact ⟨rfl, rfl⟩
  · rintro ⟨bad, record, found⟩ names enumerated
    have among : bad ∈ names := by
      obtain ⟨present, here, -⟩ := Option.map_eq_some_iff.mp found
      exact (enumerated.all bad).mpr ⟨present, here⟩
    cases first : names.find? store.isMisfiled with
    | none =>
      have right := List.find?_eq_none.mp first bad among
      exact absurd ((store.isMisfiled_iff bad).mpr ⟨record, found⟩) right
    | some name =>
      obtain ⟨wrong, before, after, split, sound⟩ := List.find?_eq_some_iff_append.mp first
      have failed := store.enumerating_scopes names
      rw [first] at failed
      simp only at failed
      rw [run_scopes_query, failed]
      refine ⟨before, name, after, split, ?_, (store.isMisfiled_iff name).mp wrong, rfl, rfl⟩
      intro other member
      have here : other ∈ names := by
        rw [split]
        exact List.mem_append_left _ member
      obtain ⟨present, stored⟩ := (enumerated.all other).mp here
      have kind := sound other member
      unfold isMisfiled value? at kind
      unfold value?
      rw [stored] at kind ⊢
      obtain ⟨scope | stream, version⟩ := present
      · exact ⟨scope, rfl⟩
      · cases kind

def threeScopes : Store :=
  ((empty.put (.scope "a") (.scope .fresh)).put (.scope "gone") (.scope .tombstone)).put
    (.scope "b") (.scope .fresh)

def misfiledScopes : Store :=
  (threeScopes.put (.scope "x") (.stream (.initial {}))).put (.scope "y") (.stream (.initial {}))

theorem listing_ignores_enumeration_of_few :
    Lookup.scopes.run.run (enumerating ["gone", "b", "a"]) threeScopes =
      Lookup.scopes.run.run (enumerating ["a", "b", "gone"]) threeScopes ∧
    ∃ before after, ["b", "y", "a", "x", "gone"] = before ++ "y" :: after ∧
      Lookup.scopes.run.run (enumerating ["b", "y", "a", "x", "gone"]) misfiledScopes =
        (.error (.unexpectedRecord (.scope "y")), misfiledScopes) := by
  constructor
  · have kinds : ∀ name record, threeScopes.value? (.scope name) = some record →
        ∃ scope, record = .scope scope := by
      intro name record found
      simp only [threeScopes, value?_put, value?_empty] at found
      repeat' split at found
      all_goals cases found
      all_goals exact ⟨_, rfl⟩
    obtain ⟨listed, -, -, runs⟩ := (listing_ignores_enumeration threeScopes).1 kinds
    have names : threeScopes.scopeNames = ["a", "b", "gone"] := by rfl
    have forward := (runs ["a", "b", "gone"] (.of_perm (by rw [names]))).1
    have backward := (runs ["gone", "b", "a"] (.of_perm (by rw [names]; decide))).1
    rw [forward, backward]
  · have names : misfiledScopes.scopeNames = ["a", "b", "gone", "x", "y"] := by rfl
    have wrong : ∃ name record, misfiledScopes.value? (.scope name) = some (.stream record) :=
      ⟨"x", .initial {}, by rfl⟩
    have enumerated : misfiledScopes.Enumerates ["b", "y", "a", "x", "gone"] :=
      .of_perm (by rw [names]; decide)
    obtain ⟨before, name, after, split, -, -, failed, -⟩ :=
      (listing_ignores_enumeration misfiledScopes).2 wrong _ enumerated
    have computed : Lookup.scopes.run.run (enumerating ["b", "y", "a", "x", "gone"])
        misfiledScopes = (.error (.unexpectedRecord (.scope "y")), misfiledScopes) := by rfl
    cases failed.symm.trans computed
    exact ⟨before, after, split, failed⟩

end Store

end StreamCatalog
