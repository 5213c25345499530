import Mathlib.Logic.Function.Basic
import StreamCatalog.Proofs.MemberIndex

namespace StreamCatalog

namespace Plan

def answer? : Plan α → Option α
  | done answer => some answer
  | note _ next => next.answer?
  | get _ _ | compareAndSet _ _ _ _ | scopeNames _ => none

def step : Plan α → Store → Plan α × Store
  | done answer, store => (done answer, store)
  | note _ next, store => next.step store
  | get key next, store => (next (.ok (store.get key)), store)
  | compareAndSet key expected record next, store =>
    let reply := Store.service.compareAndSet key expected record store
    (next reply.1, reply.2)
  | scopeNames next, store => (next (.ok store.scopeNames), store)

theorem run_step (plan : Plan α) (store : Store) :
    (plan.step store).1.run Store.service (plan.step store).2 = plan.run Store.service store := by
  induction plan with
  | done answer => rfl
  | get key next ih => rfl
  | compareAndSet key expected record next ih => rfl
  | scopeNames next ih => rfl
  | note notice next ih => exact ih

end Plan

structure Traffic where
  store : Store
  underWay : Nat → Plan (Except Error Bool)

namespace Traffic

def empty : Traffic := ⟨.empty, fun _ => .done (.ok false)⟩

def Idle (traffic : Traffic) : Prop :=
  ∀ caller, ((traffic.underWay caller).answer?).isSome = true

def launch (traffic : Traffic) (caller : Nat) (settings : Settings) (operation : Operation) :
    Traffic :=
  { traffic with
    underWay := Function.update traffic.underWay caller (operation.plan settings).run }

def advance (traffic : Traffic) (caller : Nat) : Traffic :=
  let stepped := (traffic.underWay caller).step traffic.store
  ⟨stepped.2, Function.update traffic.underWay caller stepped.1⟩

end Traffic

/-- Whoever has nothing under way may call an operation, and whoever has may go on by one call. -/
inductive Reach : Traffic → Prop where
  | start : Reach .empty
  | launch {traffic : Traffic} (reached : Reach traffic) (caller : Nat)
      (free : ((traffic.underWay caller).answer?).isSome = true) (settings : Settings)
      (operation : Operation) : Reach (traffic.launch caller settings operation)
  | advance {traffic : Traffic} (reached : Reach traffic) (caller : Nat) :
    Reach (traffic.advance caller)

/-- Says of a caller that it is about to write the stream, if it is still at this version, and that
    the stream will be live then. -/
structure Pledge where
  stream : StreamId
  version : Option Nat

structure Ledger where
  store : Store
  pledges : Nat → Option Pledge

namespace Store

def writes (store : Store) (key : Key) : Nat := (store.version? key).getD 0

def Lists (store : Store) (stream : StreamId) : Prop :=
  ∃ parent, store.scope? stream.scope = some parent ∧ parent.state = .active ∧
    stream.name ∈ parent.members

def HasLive (store : Store) (stream : StreamId) : Prop :=
  ∃ record, store.stream? stream = some record ∧ record.Live

section Same

variable {store later : Store}

theorem version?_eq_of_get {key : Key} (same : later.get key = store.get key) :
    later.version? key = store.version? key := by
  rw [version?, version?, same]

theorem scope?_eq_of_get {name : String}
    (same : later.get (.scope name) = store.get (.scope name)) :
    later.scope? name = store.scope? name := by
  rw [scope?, scope?, value?, value?, same]

theorem stream?_eq_of_get {stream : StreamId}
    (same : later.get (.stream stream) = store.get (.stream stream)) :
    later.stream? stream = store.stream? stream := by
  rw [stream?, stream?, value?, value?, same]

end Same

theorem writes_write (store : Store) (write : Write) (key : Key) :
    (store.write write).writes key =
      if write.key = key then store.writes key + 1 else store.writes key := by
  by_cases same : write.key = key <;> simp [writes, version?, get_write, same]

theorem get_write_other {write : Write} {key : Key} (different : write.key ≠ key) (store : Store) :
    (store.write write).get key = store.get key := by
  rw [get_write, if_neg different]

/-- What the store becomes as others write: a key is as it was, or has been written since. -/
def Grows (store later : Store) : Prop :=
  ∀ key, later.get key = store.get key ∨ store.writes key < later.writes key

namespace Grows

variable {store middle later : Store}

theorem writes_le (grows : Grows store later) (key : Key) :
    store.writes key ≤ later.writes key := by
  rcases grows key with same | more
  · have kept : later.writes key = store.writes key := by
      simp only [writes, version?_eq_of_get same]
    exact Nat.le_of_eq kept.symm
  · exact Nat.le_of_lt more

theorem write (store : Store) (write : Write) : Grows store (store.write write) := by
  intro key
  have grown := writes_write store write key
  by_cases here : write.key = key
  · rw [if_pos here] at grown
    exact .inr (by omega)
  · exact .inl (get_write_other here store)

theorem trans (first : Grows store middle) (second : Grows middle later) : Grows store later := by
  intro key
  have start := first.writes_le key
  have rest := second.writes_le key
  rcases first key with unchanged | more
  · rcases second key with kept | more
    · exact .inl (kept.trans unchanged)
    · exact .inr (by omega)
  · exact .inr (by omega)

/-- No version comes back. One that is the same at the end was the same all the way, and nothing has
    been written. -/
theorem between (first : Grows store middle) (second : Grows middle later) {key : Key}
    (same : later.version? key = store.version? key) :
    middle.get key = store.get key ∧ later.get key = middle.get key := by
  have start := first.writes_le key
  have rest := second.writes_le key
  have ends : later.writes key = store.writes key := by rw [writes, writes, same]
  constructor
  · exact (first key).resolve_right fun more => by omega
  · exact (second key).resolve_right fun more => by omega

theorem get_eq (grows : Grows store later) {key : Key}
    (same : later.version? key = store.version? key) : later.get key = store.get key :=
  (grows.between (fun _ => .inl rfl) same).1

end Grows

end Store

namespace Ledger

/-- The pledge of a caller still counts: nobody has written the stream since. -/
def Holds (ledger : Ledger) (caller : Nat) (stream : StreamId) : Prop :=
  ledger.pledges caller = some ⟨stream, ledger.store.version? (.stream stream)⟩

/-- A stream that is live, or that somebody is about to make live. -/
def Wanted (ledger : Ledger) (stream : StreamId) : Prop :=
  ledger.store.HasLive stream ∨ ∃ caller, ledger.Holds caller stream

/-- The members of the scopes are the streams that are wanted, no more and no less. -/
structure Sound (ledger : Ledger) : Prop where
  filed : ledger.store.Filed
  listed : ∀ stream, ledger.Wanted stream → ledger.store.Lists stream
  wanted : ∀ scope parent name, ledger.store.scope? scope = some parent → name ∈ parent.members →
    ledger.Wanted ⟨scope, name⟩
  bounded : ∀ caller pledge, ledger.pledges caller = some pledge →
    pledge.version.getD 0 ≤ ledger.store.writes (.stream pledge.stream)

/-- Nobody else can write the stream before its scope lists it anew. -/
structure Quiet (ledger : Ledger) (caller : Nat) (stream : StreamId) : Prop where
  dead : ¬ ledger.store.HasLive stream
  alone : ∀ other, other ≠ caller → ¬ ledger.Holds other stream

theorem Sound.quiet {ledger : Ledger} (sound : ledger.Sound) {stream : StreamId}
    {parent : ScopeRecord} (listing : ledger.store.scope? stream.scope = some parent)
    (unlisted : stream.name ∉ parent.members) (caller : Nat) : ledger.Quiet caller stream := by
  have unwanted : ¬ ledger.Wanted stream := by
    intro wanted
    obtain ⟨other, present, -, member⟩ := sound.listed stream wanted
    rw [listing] at present
    cases present
    exact unlisted member
  exact ⟨fun live => unwanted (.inl live), fun other _ holds => unwanted (.inr ⟨other, holds⟩)⟩

def write (ledger : Ledger) (caller : Nat) (write : Write) (pledge : Option Pledge) : Ledger :=
  ⟨ledger.store.write write, Function.update ledger.pledges caller pledge⟩

def withdraw (ledger : Ledger) (caller : Nat) : Ledger :=
  ⟨ledger.store, Function.update ledger.pledges caller none⟩

end Ledger

open Ledger

/-- What a caller can rely on while the others go on. -/
structure Rely (caller : Nat) (ledger later : Ledger) : Prop where
  sound : later.Sound
  own : later.pledges caller = ledger.pledges caller
  grows : ledger.store.Grows later.store
  quiet : ∀ stream, ledger.Quiet caller stream →
    later.store.version? (.scope stream.scope) = ledger.store.version? (.scope stream.scope) →
    later.Quiet caller stream ∧
      later.store.get (.stream stream) = ledger.store.get (.stream stream)

/-- What a caller may do: nothing that any other does not rely on. -/
structure Move (caller : Nat) (ledger later : Ledger) : Prop where
  sound : later.Sound
  relied : ∀ other, other ≠ caller → Rely other ledger later

namespace Rely

variable {caller : Nat} {ledger middle later : Ledger}

theorem refl (sound : ledger.Sound) : Rely caller ledger ledger :=
  ⟨sound, rfl, fun _ => .inl rfl, fun _ quiet _ => ⟨quiet, rfl⟩⟩

theorem trans (first : Rely caller ledger middle) (second : Rely caller middle later) :
    Rely caller ledger later := by
  refine ⟨second.sound, second.own.trans first.own, first.grows.trans second.grows,
    fun stream quiet same => ?_⟩
  -- The version of the scope is the same at the end, so it was the same in between.
  obtain ⟨early, late⟩ := first.grows.between second.grows same
  obtain ⟨still, kept⟩ := first.quiet stream quiet (Store.version?_eq_of_get early)
  obtain ⟨last, unchanged⟩ := second.quiet stream still (Store.version?_eq_of_get late)
  exact ⟨last, unchanged.trans kept⟩

end Rely

namespace Move

variable {caller : Nat} {ledger : Ledger}

theorem refl (sound : ledger.Sound) : Move caller ledger ledger :=
  ⟨sound, fun _ _ => .refl sound⟩

end Move

namespace Plan

/-- A plan keeps the ledger sound at each of its calls, whatever the others do in between. When it
    ends nothing is pledged. -/
def Safe (caller : Nat) : Plan α → Ledger → Prop
  | done _, ledger => ledger.pledges caller = none
  | note _ next, ledger => next.Safe caller ledger
  | get key next, ledger =>
    ∀ later, Rely caller ledger later → (next (.ok (later.store.get key))).Safe caller later
  | compareAndSet key expected record next, ledger =>
    ∀ later, Rely caller ledger later →
      let reply := Store.service.compareAndSet key expected record later.store
      ∃ after, Move caller later after ∧ after.store = reply.2 ∧ (next reply.1).Safe caller after
  | scopeNames next, ledger =>
    ∀ later, Rely caller ledger later → (next (.ok later.store.scopeNames)).Safe caller later

namespace Safe

variable {caller : Nat} {ledger later : Ledger}

theorem rely {plan : Plan α} (safe : plan.Safe caller ledger) (rely : Rely caller ledger later) :
    plan.Safe caller later := by
  induction plan with
  | done answer => exact rely.own.trans safe
  | get key next ih => exact fun last more => safe last (rely.trans more)
  | compareAndSet key expected record next ih => exact fun last more => safe last (rely.trans more)
  | scopeNames next ih => exact fun last more => safe last (rely.trans more)
  | note notice next ih => exact ih safe

theorem pledges_of_answer {plan : Plan α} (safe : plan.Safe caller ledger)
    (ended : plan.answer?.isSome = true) : ledger.pledges caller = none := by
  induction plan with
  | done answer => exact safe
  | get key next ih => cases ended
  | compareAndSet key expected record next ih => cases ended
  | scopeNames next ih => cases ended
  | note notice next ih => exact ih safe ended

theorem step {plan : Plan α} (safe : plan.Safe caller ledger) (sound : ledger.Sound) :
    ∃ after, Move caller ledger after ∧ after.store = (plan.step ledger.store).2 ∧
      (plan.step ledger.store).1.Safe caller after := by
  induction plan with
  | done answer => exact ⟨ledger, .refl sound, rfl, safe⟩
  | get key next ih => exact ⟨ledger, .refl sound, rfl, safe ledger (.refl sound)⟩
  | compareAndSet key expected record next ih => exact safe ledger (.refl sound)
  | scopeNames next ih => exact ⟨ledger, .refl sound, rfl, safe ledger (.refl sound)⟩
  | note notice next ih => exact ih safe

theorem of_compareAndSet {key : Key} {expected : Option Nat} {record : Record}
    {next : Except StoreFailure Nat → Plan α}
    (written : ∀ later, Rely caller ledger later → later.store.version? key = expected →
      ∃ after, Move caller later after ∧ after.store = later.store.put key record ∧
        (next (.ok (expected.getD 0 + 1))).Safe caller after)
    (refused : ∀ later, Rely caller ledger later → later.store.version? key ≠ expected →
      ∃ after, Move caller later after ∧ after.store = later.store ∧
        ∀ failure, (next (.error failure)).Safe caller after) :
    (compareAndSet key expected record next).Safe caller ledger := by
  intro later rely
  by_cases current : later.store.version? key = expected
  · simp only [Store.service, Store.compareAndSet_current current]
    exact written later rely current
  · simp only [Store.service, Store.compareAndSet, if_neg current]
    obtain ⟨after, move, same, safe⟩ := refused later rely current
    exact ⟨after, move, same, safe _⟩

end Safe

end Plan

end StreamCatalog
