import StreamCatalog.Proofs.Edit

namespace StreamCatalog

structure StreamCall where
  settings : Settings
  operation : Operation
  stream : StreamId
  addressed : operation.stream? = some stream

namespace StreamCall

def perform (call : StreamCall) (store : Store) : Except Error Bool × Store :=
  store.operate call.settings call.operation

def edit (call : StreamCall) (store : Store) : Edit :=
  call.operation.edit call.settings call.stream (store.value? (.stream call.stream))
    (store.scopeView call.stream)

theorem perform_eq (call : StreamCall) (store : Store) :
    call.perform store =
      ((call.edit store).answer, (call.edit store).apply call.stream store) := by
  have described := Operation.edit_describes call.addressed call.settings store
  rw [perform, Store.operate_eq, described.answer, described.store]
  rfl

section Pair

variable {call other : StreamCall} (different : call.stream ≠ other.stream) (store : Store)

include different

theorem edit_after_other : call.edit (other.perform store).2 = call.edit store := by
  have unseen := Edit.scopeView_apply_other different.symm (other.edit store) store
  have unwritten := Edit.get_apply_stream_other different.symm (other.edit store) store
  rw [perform_eq, edit, unseen, Store.value?, unwritten]
  rfl

theorem answer_after_other :
    (call.perform (other.perform store).2).1 = (call.perform store).1 := by
  rw [perform_eq call, perform_eq call, edit_after_other different]

theorem perform_comm :
    (call.perform (other.perform store).2).2 = (other.perform (call.perform store).2).2 := by
  rw [perform_eq call (other.perform store).2, perform_eq other (call.perform store).2,
    edit_after_other different, edit_after_other different.symm, perform_eq call, perform_eq other]
  exact Edit.apply_comm different.symm (other.edit store) (call.edit store) store

end Pair

def performAll : List StreamCall → Store → List (Except Error Bool) × Store
  | [], store => ([], store)
  | call :: rest, store =>
    let first := call.perform store
    let others := performAll rest first.2
    (first.1 :: others.1, others.2)

def performTasks : List (List StreamCall) → Store → List (List (Except Error Bool)) × Store
  | [], store => ([], store)
  | task :: rest, store =>
    let first := performAll task store
    let others := performTasks rest first.2
    (first.1 :: others.1, others.2)

/-- Makes calls one after another, each with the number of its task, which its answer keeps. -/
def performMixed : List (Nat × StreamCall) → Store → List (Nat × Except Error Bool) × Store
  | [], store => ([], store)
  | (task, call) :: rest, store =>
    let first := call.perform store
    let others := performMixed rest first.2
    ((task, first.1) :: others.1, others.2)

def ofTask (task : Nat) (mixed : List (Nat × α)) : List α :=
  mixed.filterMap fun entry => if entry.1 = task then some entry.2 else none

/-- The calls of these tasks, each task's in its own order. -/
def Mixes (tasks : List (List StreamCall)) (mixed : List (Nat × StreamCall)) : Prop :=
  ∀ task, ofTask task mixed = tasks.getD task []

def Disjoint (tasks : List (List StreamCall)) : Prop :=
  tasks.Pairwise fun one two => ∀ call ∈ one, ∀ other ∈ two, call.stream ≠ other.stream

section OfTask

variable {α : Type}

theorem mem_ofTask {task : Nat} {entry : α} {mixed : List (Nat × α)} :
    entry ∈ ofTask task mixed ↔ (task, entry) ∈ mixed := by
  simp only [ofTask, List.mem_filterMap]
  constructor
  · rintro ⟨⟨number, found⟩, member, same⟩
    split at same
    · rename_i here
      cases here
      cases same
      exact member
    · cases same
  · intro member
    exact ⟨(task, entry), member, if_pos rfl⟩

theorem ofTask_append (task : Nat) (first second : List (Nat × α)) :
    ofTask task (first ++ second) = ofTask task first ++ ofTask task second :=
  List.filterMap_append

theorem ofTask_cons (task number : Nat) (entry : α) (rest : List (Nat × α)) :
    ofTask task ((number, entry) :: rest) =
      if number = task then entry :: ofTask task rest else ofTask task rest := by
  by_cases here : number = task <;> simp [ofTask, here]

theorem ofTask_numbered (task number : Nat) (entries : List α) :
    ofTask task (entries.map (number, ·)) = if number = task then entries else [] := by
  induction entries with
  | nil => simp [ofTask]
  | cons entry rest ih =>
    rw [List.map_cons, ofTask_cons, ih]
    split <;> rfl

theorem split_of_ofTask {task : Nat} {entry : α} {mixed : List (Nat × α)} {others : List α}
    (leading : ofTask task mixed = entry :: others) :
    ∃ before after, mixed = before ++ (task, entry) :: after ∧ ofTask task before = [] := by
  obtain ⟨before, ⟨number, found⟩, after, split, skipped, here, -⟩ :=
    List.filterMap_eq_cons_iff.mp leading
  obtain ⟨rfl, rfl⟩ : number = task ∧ found = entry := by
    simpa using here
  exact ⟨before, after, split, List.filterMap_eq_nil_iff.mpr skipped⟩

theorem ofTask_lifted {number : Nat} {before after : List (Nat × α)}
    (quiet : ofTask number before = []) (entry : α) (task : Nat) :
    ofTask task (before ++ (number, entry) :: after) =
      ofTask task ((number, entry) :: (before ++ after)) := by
  rw [ofTask_append, ofTask_cons, ofTask_cons, ofTask_append]
  by_cases own : number = task
  · subst own
    rw [if_pos rfl, if_pos rfl, quiet]
    rfl
  · rw [if_neg own, if_neg own]

theorem ofTask_tail {number : Nat} {entry : α} {first second : List (Nat × α)}
    (same : ∀ task, ofTask task ((number, entry) :: first) =
      ofTask task ((number, entry) :: second)) (task : Nat) :
    ofTask task first = ofTask task second := by
  have whole := same task
  rw [ofTask_cons, ofTask_cons] at whole
  by_cases own : number = task
  · rw [if_pos own, if_pos own] at whole
    exact List.tail_eq_of_cons_eq whole
  · rw [if_neg own, if_neg own] at whole
    exact whole

end OfTask

section Mixed

variable {before after : List (Nat × StreamCall)} {call : StreamCall}

theorem length_answers (task : Nat) (mixed : List (Nat × StreamCall)) (store : Store) :
    (ofTask task (performMixed mixed store).1).length = (ofTask task mixed).length := by
  induction mixed generalizing store with
  | nil => rfl
  | cons entry rest ih =>
    obtain ⟨number, call⟩ := entry
    simp only [performMixed, ofTask_cons]
    split
    · simp only [List.length_cons, ih]
    · exact ih _

theorem performMixed_append (before after : List (Nat × StreamCall)) (store : Store) :
    performMixed (before ++ after) store =
      ((performMixed before store).1 ++ (performMixed after (performMixed before store).2).1,
        (performMixed after (performMixed before store).2).2) := by
  induction before generalizing store with
  | nil => rfl
  | cons entry rest ih => simp only [List.cons_append, performMixed, ih]

theorem performMixed_past (apart : ∀ entry ∈ before, call.stream ≠ entry.2.stream)
    (store : Store) :
    (call.perform (performMixed before store).2).1 = (call.perform store).1 ∧
      (call.perform (performMixed before store).2).2 =
        (performMixed before (call.perform store).2).2 ∧
      (performMixed before (call.perform store).2).1 = (performMixed before store).1 := by
  induction before generalizing store with
  | nil => exact ⟨rfl, rfl, rfl⟩
  | cons entry rest ih =>
    obtain ⟨task, other⟩ := entry
    have different : call.stream ≠ other.stream := apart _ List.mem_cons_self
    have others := fun entry member => apart entry (List.mem_cons_of_mem (task, other) member)
    obtain ⟨answer, left, answers⟩ := ih others (other.perform store).2
    have swapped := perform_comm different store
    simp only [performMixed]
    refine ⟨answer.trans (answer_after_other different store), ?_, ?_⟩
    · rw [left, swapped]
    · rw [← swapped, answers, answer_after_other different.symm]

/-- Two orders that agree on every task do the same. -/
theorem performMixed_of_same {first second : List (Nat × StreamCall)}
    (same : ∀ task, ofTask task second = ofTask task first)
    (apart : ∀ one ∈ first, ∀ two ∈ first, one.1 ≠ two.1 → one.2.stream ≠ two.2.stream)
    (store : Store) :
    (∀ task, ofTask task (performMixed second store).1 = ofTask task (performMixed first store).1) ∧
      (performMixed second store).2 = (performMixed first store).2 := by
  induction first generalizing second store with
  | nil =>
    have none : second = [] := by
      refine List.eq_nil_iff_forall_not_mem.mpr fun entry member => ?_
      have kept := mem_ofTask.mpr member
      rw [same] at kept
      cases kept
    rw [none]
    exact ⟨fun _ => rfl, rfl⟩
  | cons entry rest ih =>
    obtain ⟨task, call⟩ := entry
    -- The first call of the one order stands somewhere in the other, after calls of other tasks.
    have leading := same task
    rw [ofTask_cons, if_pos rfl] at leading
    obtain ⟨before, after, rfl, none⟩ := split_of_ofTask leading
    have others : ∀ entry ∈ before, call.stream ≠ entry.2.stream := by
      intro entry member
      have elsewhere : task ≠ entry.1 := by
        rintro rfl
        have own := mem_ofTask.mpr member
        rw [none] at own
        cases own
      have kept := mem_ofTask.mpr (List.mem_append_left ((task, call) :: after) member)
      rw [same] at kept
      exact apart _ List.mem_cons_self _ (mem_ofTask.mp kept) elsewhere
    have remaining : ∀ number, ofTask number (before ++ after) = ofTask number rest :=
      ofTask_tail fun number => (ofTask_lifted none call number).symm.trans (same number)
    obtain ⟨answer, left, answers⟩ := performMixed_past others store
    obtain ⟨ended, final⟩ := ih remaining
      (fun one first two second => apart one (List.mem_cons_of_mem _ first) two
        (List.mem_cons_of_mem _ second)) (call.perform store).2
    rw [performMixed_append] at ended final
    simp only [performMixed_append, performMixed, left, answer]
    refine ⟨fun number => ?_, final⟩
    have told := ended number
    have quiet : ofTask task (performMixed before store).1 = [] := by
      rw [← List.length_eq_zero_iff, length_answers, none, List.length_nil]
    rw [answers] at told
    rw [ofTask_lifted quiet, ofTask_cons, ofTask_cons, told]

end Mixed

def inTurn {α : Type} (number : Nat) : List (List α) → List (Nat × α)
  | [] => []
  | task :: rest => task.map (number, ·) ++ inTurn (number + 1) rest

theorem ofTask_inTurn {α : Type} (task number : Nat) (tasks : List (List α)) :
    ofTask task (inTurn number tasks) =
      if task < number then [] else tasks.getD (task - number) [] := by
  induction tasks generalizing number with
  | nil => simp [inTurn, ofTask]
  | cons head rest ih =>
    rw [inTurn, ofTask_append, ofTask_numbered, ih]
    rcases Nat.lt_trichotomy task number with early | here | late
    · simp [early, Nat.ne_of_gt early, Nat.lt_succ_of_lt early]
    · simp [here]
    · obtain ⟨more, rfl⟩ := Nat.exists_eq_add_of_lt late
      have past : ¬ number + more + 1 < number + 1 := by omega
      have next : number + more + 1 - number = more + 1 := by omega
      have shifted : number + more + 1 - (number + 1) = more := by omega
      simp [past, next, shifted, Nat.ne_of_lt late, Nat.not_lt_of_lt late]

theorem performMixed_numbered (number : Nat) (task : List StreamCall) (store : Store) :
    performMixed (task.map (number, ·)) store =
      ((performAll task store).1.map (number, ·), (performAll task store).2) := by
  induction task generalizing store with
  | nil => rfl
  | cons call rest ih => simp only [List.map_cons, performMixed, performAll, ih]

theorem performMixed_inTurn (number : Nat) (tasks : List (List StreamCall)) (store : Store) :
    performMixed (inTurn number tasks) store =
      (inTurn number (performTasks tasks store).1, (performTasks tasks store).2) := by
  induction tasks generalizing number store with
  | nil => rfl
  | cons task rest ih =>
    simp only [inTurn, performMixed_append, performMixed_numbered, performTasks, ih]

theorem Disjoint.apart {tasks : List (List StreamCall)} (disjoint : Disjoint tasks)
    {one two : Nat × StreamCall} (first : one ∈ inTurn 0 tasks) (second : two ∈ inTurn 0 tasks)
    (different : one.1 ≠ two.1) : one.2.stream ≠ two.2.stream := by
  have early : one.2 ∈ tasks.getD one.1 [] := by
    simpa [ofTask_inTurn] using mem_ofTask.mpr first
  have late : two.2 ∈ tasks.getD two.1 [] := by
    simpa [ofTask_inTurn] using mem_ofTask.mpr second
  have inside {number : Nat} {call : StreamCall} (member : call ∈ tasks.getD number []) :
      ∃ bound : number < tasks.length, call ∈ tasks[number] := by
    rw [List.getD_eq_getElem?_getD] at member
    cases found : tasks[number]? with
    | none => simp [found] at member
    | some task =>
      obtain ⟨bound, same⟩ := List.getElem?_eq_some_iff.mp found
      exact ⟨bound, by simpa [found, same] using member⟩
  obtain ⟨bound, early⟩ := inside early
  obtain ⟨limit, late⟩ := inside late
  have pairs := List.pairwise_iff_getElem.mp disjoint
  rcases Nat.lt_or_gt_of_ne different with less | greater
  · exact pairs _ _ bound limit less _ early _ late
  · exact (pairs _ _ limit bound greater _ late _ early).symm

/-- Two calls on different streams may be made in either order, whatever the store holds. So may all
    calls of tasks that share no stream, as long as each task keeps its own order. -/
theorem calls_on_other_streams_commute :
    (∀ (call other : StreamCall) (store : Store), call.stream ≠ other.stream →
      (call.perform (other.perform store).2).1 = (call.perform store).1 ∧
        (other.perform (call.perform store).2).1 = (other.perform store).1 ∧
        (call.perform (other.perform store).2).2 = (other.perform (call.perform store).2).2) ∧
    (∀ (tasks : List (List StreamCall)) (mixed : List (Nat × StreamCall)) (store : Store),
      Disjoint tasks → Mixes tasks mixed →
        (∀ task, ofTask task (performMixed mixed store).1 =
          (performTasks tasks store).1.getD task []) ∧
        (performMixed mixed store).2 = (performTasks tasks store).2) := by
  constructor
  · intro call other store different
    exact ⟨answer_after_other different store, answer_after_other different.symm store,
      perform_comm different store⟩
  · intro tasks mixed store disjoint mixes
    have same (task : Nat) : ofTask task mixed = ofTask task (inTurn 0 tasks) := by
      simpa [ofTask_inTurn] using mixes task
    obtain ⟨answers, final⟩ := performMixed_of_same same
      (fun _ first _ second => disjoint.apart first second) store
    rw [performMixed_inTurn] at answers final
    exact ⟨fun task => by simpa [ofTask_inTurn] using answers task, final⟩

def creation (name : String) : StreamCall := ⟨{}, .createStream ⟨"s", name⟩ {}, ⟨"s", name⟩, rfl⟩

def sealing (name : String) : StreamCall := ⟨{}, .sealStream ⟨"s", name⟩, ⟨"s", name⟩, rfl⟩

def deletion (name : String) : StreamCall := ⟨{}, .deleteStream ⟨"s", name⟩, ⟨"s", name⟩, rfl⟩

def threeTasks : List (List StreamCall) :=
  [[creation "a", sealing "a", deletion "a"], [creation "b", sealing "b", deletion "b"],
    [deletion "c", sealing "c"]]

def threeTasksMixed : List (Nat × StreamCall) :=
  [(1, creation "b"), (0, creation "a"), (2, deletion "c"), (1, sealing "b"), (1, deletion "b"),
    (0, sealing "a"), (2, sealing "c"), (0, deletion "a")]

theorem calls_on_other_streams_commute_in_one_scope :
    ((creation "a").perform ((creation "b").perform Attempt.oneScope).2).2 =
        ((creation "b").perform ((creation "a").perform Attempt.oneScope).2).2 ∧
      Disjoint threeTasks ∧ Mixes threeTasks threeTasksMixed ∧
      ofTask 0 (performMixed threeTasksMixed Attempt.oneScope).1 =
        [.ok true, .ok true, .ok true] ∧
      ofTask 2 (performMixed threeTasksMixed Attempt.oneScope).1 =
        [.ok false, .error (.streamNotActive ⟨"s", "c"⟩)] ∧
      (performMixed threeTasksMixed Attempt.oneScope).2 =
        (performTasks threeTasks Attempt.oneScope).2 := by
  have disjoint : Disjoint threeTasks := by
    simp [Disjoint, threeTasks, creation, sealing, deletion]
  have mixes : Mixes threeTasks threeTasksMixed := by
    intro task
    match task with
    | 0 | 1 | 2 => rfl
    | more + 3 => rfl
  have swapped := calls_on_other_streams_commute.1 (creation "a") (creation "b") Attempt.oneScope
    (by decide)
  obtain ⟨answers, final⟩ := calls_on_other_streams_commute.2 threeTasks threeTasksMixed
    Attempt.oneScope disjoint mixes
  exact ⟨swapped.2.2, disjoint, mixes, (answers 0).trans (by rfl), (answers 2).trans (by rfl),
    final⟩

end StreamCall

end StreamCatalog
