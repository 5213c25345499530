import StreamCatalog.Walkthrough
import StreamCatalog.Proofs.Refinement
import StreamCatalog.Proofs.Retry
import StreamCatalog.Proofs.SessionSteps

namespace StreamCatalog.Walkthrough

/-- The walk ends with this answer, and leaves a catalogue with this property. -/
def Succeeds (walk : Walk α) (answer : α) (after : Catalog → Prop) (catalog : Catalog) : Prop :=
  ∃ later, walk.run.run catalog = (.ok answer, later) ∧ after later

namespace Succeeds

variable {catalog : Catalog}

theorem pure {answer : α} {after : Catalog → Prop} (holds : after catalog) :
    Succeeds (Pure.pure answer) answer after catalog :=
  ⟨catalog, rfl, holds⟩

theorem bind {first : Walk α} {rest : α → Walk β} {middle : α} {answer : β}
    {between after : Catalog → Prop} (begun : Succeeds first middle between catalog)
    (goes : ∀ later, between later → Succeeds (rest middle) answer after later) :
    Succeeds (first >>= rest) answer after catalog := by
  obtain ⟨halfway, ran, holds⟩ := begun
  obtain ⟨later, finished, ends⟩ := goes halfway holds
  have whole : (first >>= rest).run.run catalog = (rest middle).run.run halfway := by
    simp only [ExceptT.run_bind, StateT.run_bind, ran]
    rfl
  exact ⟨later, whole.trans finished, ends⟩

theorem weaken {walk : Walk α} {answer : α} {after weaker : Catalog → Prop}
    (succeeds : Succeeds walk answer after catalog)
    (weakens : ∀ later, after later → weaker later) : Succeeds walk answer weaker catalog := by
  obtain ⟨later, ran, holds⟩ := succeeds
  exact ⟨later, ran, weakens later holds⟩

/-- A loop comes through if every round takes what holds before it to what holds before the next. -/
theorem forM {step : Nat → Walk Unit} (holds : Nat → Catalog → Prop) (count : Nat)
    (start : holds 0 catalog)
    (round : ∀ index < count, ∀ catalog, holds index catalog →
      Succeeds (step index) () (holds (index + 1)) catalog) :
    Succeeds ((List.range count).forM step) () (holds count) catalog := by
  induction count with
  | zero => exact pure start
  | succ count ih =>
    have earlier := ih fun index below => round index (Nat.lt_succ_of_lt below)
    rw [List.range_succ, List.forM_eq_forM, List.forM_append]
    apply earlier.bind
    intro later reached
    rw [List.forM_cons, List.forM_nil]
    exact (round count (Nat.lt_succ_self count) later reached).bind fun _ => pure

theorem mapM {step : Nat → Walk α} {answer : Nat → α} (holds : Nat → Catalog → Prop)
    (count : Nat) (start : holds 0 catalog)
    (round : ∀ index < count, ∀ catalog, holds index catalog →
      Succeeds (step index) (answer index) (holds (index + 1)) catalog) :
    Succeeds ((List.range count).mapM step) ((List.range count).map answer) (holds count)
      catalog := by
  induction count with
  | zero => exact pure start
  | succ count ih =>
    have earlier := ih fun index below => round index (Nat.lt_succ_of_lt below)
    rw [List.range_succ, List.mapM_append, List.map_append]
    apply earlier.bind
    intro later reached
    have last := round count (Nat.lt_succ_self count) later reached
    have single : Succeeds ([count].mapM step) [answer count] (holds (count + 1)) later := by
      rw [List.mapM_cons, List.mapM_nil]
      exact last.bind fun _ => pure
    exact single.bind fun _ => pure

end Succeeds

variable (hash : String → UInt64) {catalog : Catalog}

theorem succeeds_ask {call : Call} {reply : Reply} {later : Catalog}
    (performed : catalog.perform hash call = (reply, later)) :
    Succeeds (ask hash call) reply (· = later) catalog := by
  refine ⟨later, ?_, rfl⟩
  have ran : (ask hash call).run.run catalog =
      (.ok (catalog.perform hash call).1, (catalog.perform hash call).2) := rfl
  rw [ran, performed]

theorem succeeds_expect {kind : Reply → Bool} {call : Call} {reply : Reply} {later : Catalog}
    {after : Catalog → Prop} (performed : catalog.perform hash call = (reply, later))
    (expected : kind reply = true) (holds : after later) :
    Succeeds (expect hash kind call) () after catalog := by
  refine (succeeds_ask hash performed).bind ?_
  rintro _ rfl
  rw [if_pos expected]
  exact .pure holds

theorem succeeds_operate {kind : Reply → Bool} {operation : Operation} {verdict : Verdict}
    {after : Catalog → Prop} (valid : operation.check {} = .ok ())
    (decided : operation.verdictOnValid {} catalog.store = verdict)
    (expected : kind (.lifecycle verdict.result) = true)
    (holds : after ⟨verdict.apply catalog.store, catalog.path⟩) :
    Succeeds (operate hash kind operation) () after catalog := by
  have performed := Catalog.perform_lifecycle hash catalog {} operation
  rw [Operation.verdict_of_valid valid, decided] at performed
  exact succeeds_expect hash performed expected holds

end StreamCatalog.Walkthrough
