import Mathlib.Data.List.Dedup
import StreamCatalog.Proofs.Answers

namespace StreamCatalog

inductive StoreCall where
  | get (key : Key)
  | compareAndSet (key : Key) (expected : Option Nat) (record : Record)
  | scopeNames
  | size
  | isEmpty

inductive StoreReply where
  | found (current : Option (Versioned Record))
  | written (result : Except StoreFailure Nat)
  | names (names : List String)
  | counted (records : Nat)
  | flag (empty : Bool)

def Store.perform (store : Store) : StoreCall → StoreReply × Store
  | .get key => (.found (store.get key), store)
  | .compareAndSet key expected record =>
    let reply := service.compareAndSet key expected record store
    (.written reply.1, reply.2)
  | .scopeNames => (.names store.scopeNames, store)
  | .size => (.counted store.size, store)
  | .isEmpty => (.flag store.isEmpty, store)

structure StoreEntry where
  call : StoreCall
  reply : StoreReply

/-- The stores that can be reached from a first one, with the calls made, the latest first. -/
inductive StoreLog (start : Store) : List StoreEntry → Store → Prop where
  | start : StoreLog start [] start
  | call {past : List StoreEntry} {store : Store} (log : StoreLog start past store)
      (call : StoreCall) :
    StoreLog start (⟨call, (store.perform call).1⟩ :: past) (store.perform call).2

namespace StoreEntry

def write? (entry : StoreEntry) : Option (Key × Record) :=
  match entry.call, entry.reply with
  | .compareAndSet key _ record, .written (.ok _) => some (key, record)
  | _, _ => none

def wins (key : Key) (expected : Option Nat) (entry : StoreEntry) : Bool :=
  match entry.call, entry.reply with
  | .compareAndSet written version _, .written (.ok _) => written = key && version = expected
  | _, _ => false

end StoreEntry

def keysWritten (past : List StoreEntry) : List Key :=
  (past.filterMap StoreEntry.write?).map (·.1)

def recordsWritten (key : Key) (past : List StoreEntry) : List Record :=
  ((past.filterMap StoreEntry.write?).filter (·.1 = key)).map (·.2)

def versionAfter : Nat → Option Nat
  | 0 => none
  | count + 1 => some (count + 1)

theorem versionAfter_inj {first second : Nat} (same : versionAfter first = versionAfter second) :
    first = second := by
  cases first <;> cases second <;> simp_all [versionAfter]

theorem getD_versionAfter (count : Nat) : (versionAfter count).getD 0 = count := by
  cases count <;> rfl

section Written

variable {key : Key} {entry : StoreEntry} (past : List StoreEntry)

theorem recordsWritten_cons : recordsWritten key (entry :: past) =
    (entry.write?.toList.filter (·.1 = key)).map (·.2) ++ recordsWritten key past := by
  unfold recordsWritten
  cases told : entry.write? with
  | none => simp [told]
  | some write => by_cases here : write.1 = key <;> simp [told, here]

theorem recordsWritten_append (more : List StoreEntry) :
    recordsWritten key (more ++ past) = recordsWritten key more ++ recordsWritten key past := by
  simp [recordsWritten, List.filterMap_append, List.filter_append]

theorem mem_keysWritten : key ∈ keysWritten past ↔ recordsWritten key past ≠ [] := by
  simp [keysWritten, recordsWritten, List.filter_eq_nil_iff]

end Written

namespace Store

/-- Whether the store holds what was written: under each key the latest record, with the number of
    writes as its version. -/
def Holds (past : List StoreEntry) (store : Store) : Prop :=
  ∀ key, store.get key =
    (recordsWritten key past).head?.map (⟨·, (recordsWritten key past).length⟩)

variable {past : List StoreEntry} {store : Store}

theorem Holds.version? (holds : store.Holds past) (key : Key) :
    store.version? key = versionAfter (recordsWritten key past).length := by
  rw [Store.version?, holds key]
  cases recordsWritten key past <;> rfl

theorem Holds.perform_compareAndSet (holds : store.Holds past) (key : Key) (expected : Option Nat)
    (record : Record) :
    store.perform (.compareAndSet key expected record) =
      if expected = versionAfter (recordsWritten key past).length then
        (.written (.ok ((recordsWritten key past).length + 1)), store.put key record)
      else (.written (.error (.versionMismatch key expected
        (versionAfter (recordsWritten key past).length))), store) := by
  have version := holds.version? key
  split
  · rename_i current
    subst current
    simp only [perform, service, compareAndSet_current version, getD_versionAfter]
  · rename_i stale
    have refused := Ne.symm stale
    simp only [perform, service, compareAndSet, version, if_neg refused]

theorem Holds.call (holds : store.Holds past) (call : StoreCall) :
    (store.perform call).2.Holds (⟨call, (store.perform call).1⟩ :: past) := by
  cases call with
  | compareAndSet key expected record =>
    rw [holds.perform_compareAndSet]
    intro other
    have before := holds other
    rw [recordsWritten_cons]
    split
    · rw [get_put, holds.version?, getD_versionAfter]
      by_cases here : key = other <;> simp [StoreEntry.write?, here, before]
    · simp [StoreEntry.write?, before]
  | get key => exact holds
  | scopeNames => exact holds
  | size => exact holds
  | isEmpty => exact holds

theorem Holds.of_wins (holds : store.Holds past) {call : StoreCall} {key : Key}
    {expected : Option Nat} (wins : StoreEntry.wins key expected ⟨call, (store.perform call).1⟩) :
    expected = versionAfter (recordsWritten key past).length ∧
      (recordsWritten key (⟨call, (store.perform call).1⟩ :: past)).length =
        (recordsWritten key past).length + 1 := by
  cases call with
  | compareAndSet written version record =>
    rw [holds.perform_compareAndSet] at wins ⊢
    split at wins
    · rename_i current
      simp only [StoreEntry.wins, Bool.and_eq_true, decide_eq_true_eq] at wins
      obtain ⟨rfl, rfl⟩ := wins
      simp [recordsWritten_cons, current, StoreEntry.write?, Nat.add_comm]
    · cases wins
  | get key => cases wins
  | scopeNames => cases wins
  | size => cases wins
  | isEmpty => cases wins

theorem Holds.get_eq_none (holds : store.Holds past) (key : Key) :
    store.get key = none ↔ recordsWritten key past = [] := by
  rw [holds key, Option.map_eq_none_iff, List.head?_eq_none_iff]

theorem Holds.mem_records (holds : store.Holds past) (key : Key) :
    key ∈ store.records ↔ key ∈ keysWritten past := by
  rw [Std.ExtTreeMap.mem_iff_isSome_getElem?, mem_keysWritten, ne_eq, ← holds.get_eq_none,
    ← ne_eq, ← Option.isSome_iff_ne_none]
  rfl

theorem Holds.size (holds : store.Holds past) : store.size = (keysWritten past).dedup.length := by
  have distinct : store.records.keys.Nodup := store.records.distinct_keys.imp
    fun different same => different (Std.LawfulEqOrd.compare_eq_iff_eq.mpr same)
  have same : store.records.keys.Perm (keysWritten past).dedup := by
    refine (List.perm_ext_iff_of_nodup distinct (List.nodup_dedup _)).mpr fun key => ?_
    rw [Std.ExtTreeMap.mem_keys, List.mem_dedup, holds.mem_records]
  rw [Store.size, ← Std.ExtTreeMap.length_keys, same.length_eq]

theorem Holds.isEmpty (holds : store.Holds past) : store.isEmpty = (keysWritten past).isEmpty := by
  rw [Bool.eq_iff_iff, List.isEmpty_iff, List.eq_nil_iff_forall_not_mem]
  simp only [← holds.mem_records]
  rw [← Std.ExtTreeMap.eq_empty_iff_forall_not_mem, ← Std.ExtTreeMap.isEmpty_iff]
  rfl

end Store

namespace StoreLog

variable {start store later : Store} {past more : List StoreEntry}

theorem append (log : StoreLog start past store) (rest : StoreLog store more later) :
    StoreLog start (more ++ past) later := by
  induction rest with
  | start => exact log
  | call rest call ih => exact ih.call call

theorem holds (log : StoreLog .empty past store) : store.Holds past := by
  induction log with
  | start => exact fun key => Store.get_empty key
  | call log call ih => exact ih.call call

theorem lt_of_wins (log : StoreLog .empty past store) {key : Key} {expected : Option Nat} :
    ∀ entry ∈ past, entry.wins key expected = true →
      expected.getD 0 < (recordsWritten key past).length := by
  induction log with
  | start => simp
  | @call past store log call ih =>
    intro entry member wins
    rcases List.mem_cons.mp member with rfl | member
    · obtain ⟨current, more⟩ := log.holds.of_wins wins
      rw [more, current, getD_versionAfter]
      exact Nat.lt_succ_self _
    · have earlier := ih entry member wins
      rw [recordsWritten_cons, List.length_append]
      omega

theorem countP_wins_le_one (log : StoreLog .empty past store) (key : Key)
    (expected : Option Nat) : past.countP (·.wins key expected) ≤ 1 := by
  induction log with
  | start => simp
  | @call past store log call ih =>
    rw [List.countP_cons]
    split
    · rename_i wins
      -- The write was over the present version, and all that won before were over older ones.
      have none : past.countP (·.wins key expected) = 0 := by
        refine List.countP_eq_zero.mpr fun entry member won => ?_
        have older := log.lt_of_wins entry member won
        rw [(log.holds.of_wins wins).1, getD_versionAfter] at older
        exact Nat.lt_irrefl _ older
      omega
    · exact ih

/-- Whatever a version was read at, a write over it is accepted exactly if the key has not been
    written since. -/
theorem accepts_iff_unwritten (log : StoreLog .empty past store) (rest : StoreLog store more later)
    (key : Key) (record : Record) :
    (∃ version, (later.perform (.compareAndSet key ((store.get key).map (·.version)) record)).1 =
      .written (.ok version)) ↔ recordsWritten key more = [] := by
  have read : (store.get key).map (·.version) = _ := log.holds.version? key
  rw [(log.append rest).holds.perform_compareAndSet, read, recordsWritten_append,
    List.length_append]
  constructor
  · rintro ⟨version, accepted⟩
    split at accepted
    · rename_i same
      have counts := versionAfter_inj same
      exact List.eq_nil_of_length_eq_zero (by omega)
    · cases accepted
  · intro unwritten
    rw [unwritten, List.length_nil, Nat.zero_add, if_pos rfl]
    exact ⟨_, rfl⟩

/-- After any calls on a new store: a write is accepted exactly over the version that counts the
    writes so far, and otherwise told what it expected and what there is, and nothing changes; a
    read finds the latest record and that count. So a write over a version read earlier is accepted
    exactly if the key has not been written since, and of the writes over one version at most one
    is. Every scope ever written is listed once, and the size counts the keys ever written. -/
theorem versions_count_writes (log : StoreLog .empty past store) :
    (∀ key expected record,
      if expected = versionAfter (recordsWritten key past).length then
        (store.perform (.compareAndSet key expected record)).1 =
          .written (.ok ((recordsWritten key past).length + 1))
      else store.perform (.compareAndSet key expected record) =
        (.written (.error (.versionMismatch key expected
          (versionAfter (recordsWritten key past).length))), store)) ∧
    (∀ key, (store.perform (.get key)).1 = .found ((recordsWritten key past).head?.map
      (⟨·, (recordsWritten key past).length⟩))) ∧
    (∀ key more later, StoreLog store more later → ∀ record,
      (∃ version, (later.perform (.compareAndSet key ((store.get key).map (·.version)) record)).1 =
        .written (.ok version)) ↔ recordsWritten key more = []) ∧
    (∀ key expected, past.countP (·.wins key expected) ≤ 1) ∧
    (∃ names, (store.perform .scopeNames).1 = .names names ∧ names.Nodup ∧
      ∀ name, name ∈ names ↔ .scope name ∈ keysWritten past) ∧
    (store.perform .size).1 = .counted (keysWritten past).dedup.length ∧
    (store.perform .isEmpty).1 = .flag (keysWritten past).isEmpty := by
  have holds := log.holds
  refine ⟨?_, ?_, ?_, log.countP_wins_le_one, ?_, ?_, ?_⟩
  · intro key expected record
    rw [holds.perform_compareAndSet]
    split <;> rfl
  · intro key
    rw [Store.perform, holds key]
  · intro key more later rest record
    exact log.accepts_iff_unwritten rest key record
  · refine ⟨store.scopeNames, rfl, store.nodup_scopeNames, fun name => ?_⟩
    rw [store.mem_scopeNames, ← holds.mem_records, Std.ExtTreeMap.mem_iff_isSome_getElem?,
      Option.isSome_iff_exists]
    rfl
  · rw [Store.perform, holds.size]
  · rw [Store.perform, holds.isEmpty]

theorem versions_count_writes_under_equal_names :
    ∃ past store, StoreLog .empty past store ∧
      (store.perform (.get (.scope "a"))).1 = .found (some ⟨.scope .tombstone, 2⟩) ∧
      store.perform (.compareAndSet (.stream ⟨"a", "a"⟩) (some 0) (.stream (.initial {}))) =
        (.written (.error (.versionMismatch (.stream ⟨"a", "a"⟩) (some 0) (some 1))), store) ∧
      past.countP (·.wins (.stream ⟨"a", "a"⟩) none) = 1 ∧
      (store.perform .size).1 = .counted 2 := by
  have first : StoreLog .empty [] .empty := .start
  have log := (((first.call
    (.compareAndSet (.scope "a") none (.scope .fresh))).call
    (.compareAndSet (.stream ⟨"a", "a"⟩) none (.stream (.initial {})))).call
    (.compareAndSet (.stream ⟨"a", "a"⟩) none (.stream (.initial {})))).call
    (.compareAndSet (.scope "a") (some 1) (.scope .tombstone))
  obtain ⟨writes, reads, -, -, -, size, -⟩ := versions_count_writes log
  exact ⟨_, _, log, reads (.scope "a"), writes (.stream ⟨"a", "a"⟩) (some 0) _, by decide, size⟩

end StoreLog

end StreamCatalog
