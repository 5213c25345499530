import StreamCatalog.Proofs.Outage
import StreamCatalog.Query

namespace StreamCatalog

namespace Plan

def ReadsOnly : Plan α → Prop
  | done _ => True
  | get _ next => ∀ reply, (next reply).ReadsOnly
  | compareAndSet _ _ _ _ => False
  | scopeNames next => ∀ reply, (next reply).ReadsOnly
  | note _ next => next.ReadsOnly

namespace ReadsOnly

theorem bind {plan : Plan α} {rest : α → Plan β} (first : plan.ReadsOnly)
    (others : ∀ answer, (rest answer).ReadsOnly) : (plan.bind rest).ReadsOnly := by
  induction plan with
  | done answer => exact others answer
  | get key next ih => exact fun reply => ih reply (first reply)
  | compareAndSet key expected record next ih => exact first.elim
  | scopeNames next ih => exact fun reply => ih reply (first reply)
  | note notice next ih => exact ih first

theorem sequence {first : ExceptT ε Plan α} {rest : α → ExceptT ε Plan β}
    (reads : first.run.ReadsOnly) (others : ∀ answer, (rest answer).run.ReadsOnly) :
    (first >>= rest).run.ReadsOnly := by
  refine bind reads fun reply => ?_
  cases reply with
  | ok answer => exact others answer
  | error error => exact True.intro

theorem fetch {fetch : Fetch α} (reads : fetch.run.ReadsOnly) :
    (liftM fetch : Action α).run.ReadsOnly := bind reads fun _ => True.intro

theorem run {plan : Plan α} (reads : plan.ReadsOnly) (outages : Outages) (world : UnsteadyStore) :
    (plan.run (UnsteadyStore.service outages) world).2.store = world.store := by
  induction plan generalizing world with
  | done answer => rfl
  | get key next ih =>
    simp only [Plan.run, UnsteadyStore.service]
    cases outages world.calls <;> exact ih _ (reads _) _
  | compareAndSet key expected record next ih => exact reads.elim
  | scopeNames next ih =>
    simp only [Plan.run, UnsteadyStore.service]
    cases outages world.calls <;> exact ih _ (reads _) _
  | note notice next ih => exact ih reads _

end ReadsOnly

end Plan

namespace Lookup

theorem scopeRecord_readsOnly (name : String) : (scopeRecord name).run.ReadsOnly := by
  refine .sequence (fun reply => True.intro) fun current => ?_
  rcases current with _ | ⟨_ | _, version⟩ <;> exact True.intro

theorem streamRecord_readsOnly (stream : StreamId) : (streamRecord stream).run.ReadsOnly := by
  refine .sequence (fun reply => True.intro) fun current => ?_
  rcases current with _ | ⟨_ | _, version⟩ <;> exact True.intro

theorem scopeExists_readsOnly (name : String) : (scopeExists name).run.ReadsOnly := by
  refine .sequence (scopeRecord_readsOnly name) fun current => ?_
  cases current <;> exact True.intro

theorem keepActive_readsOnly (names : List String) : (keepActive names).run.ReadsOnly := by
  induction names with
  | nil => exact True.intro
  | cons name rest ih =>
    exact .sequence (scopeExists_readsOnly name) fun _ => .sequence ih fun _ => True.intro

theorem streamInfo_readsOnly (stream : StreamId) : (streamInfo stream).run.ReadsOnly := by
  refine .sequence (streamRecord_readsOnly stream) fun current => ?_
  cases current <;> exact True.intro

end Lookup

namespace Query

open Lookup

theorem listStreams_readsOnly (scope : String) : (listStreams scope).run.ReadsOnly := by
  refine .sequence (.fetch (scopeRecord_readsOnly scope)) fun current => ?_
  rcases current with _ | ⟨⟨_ | _, members⟩, version⟩ <;> exact True.intro

theorem plan_readsOnly (query : Query) : query.plan.run.ReadsOnly := by
  cases query with
  | scopeExists scope => exact .sequence (.fetch (scopeExists_readsOnly scope)) fun _ => True.intro
  | scopeIsEmpty scope =>
    refine .sequence (.fetch (.sequence (scopeRecord_readsOnly scope) fun current => ?_))
      fun _ => True.intro
    cases current <;> exact True.intro
  | scopes =>
    refine .sequence (.fetch ?_) fun _ => True.intro
    exact .sequence (fun reply => True.intro) fun names =>
      .sequence (keepActive_readsOnly names) fun _ => True.intro
  | streams scope => exact .sequence (listStreams_readsOnly scope) fun _ => True.intro
  | streamExists stream =>
    refine .sequence (.fetch (.sequence (streamRecord_readsOnly stream) fun current => ?_))
      fun _ => True.intro
    cases current <;> exact True.intro
  | streamInfo stream => exact .sequence (.fetch (streamInfo_readsOnly stream)) fun _ => True.intro
  | streamIsActive stream =>
    refine .sequence (.fetch (.sequence (streamInfo_readsOnly stream) fun info => ?_))
      fun _ => True.intro
    cases info <;> exact True.intro

end Query

end StreamCatalog
