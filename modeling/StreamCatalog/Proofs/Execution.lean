import StreamCatalog.Plan

namespace StreamCatalog

variable {σ : Type} (service : Service σ)

theorem run_then (plan : Plan α) (rest : α → Plan β) (world : σ) :
    (plan >>= rest).run service world =
      (rest (plan.run service world).1).run service (plan.run service world).2 :=
  Plan.run_bind service plan rest world

theorem run_throw (error : ε) (world : σ) :
    (throw error : ExceptT ε Plan α).run.run service world = (.error error, world) := rfl

theorem run_sequence (first : ExceptT ε Plan α) (rest : α → ExceptT ε Plan β) (world : σ) :
    (first >>= rest).run.run service world =
      match first.run.run service world with
      | (.ok answer, later) => (rest answer).run.run service later
      | (.error error, later) => (.error error, later) := by
  have law : (first >>= rest).run.run service world =
      (ExceptT.bindCont rest (first.run.run service world).1).run service
        (first.run.run service world).2 := Plan.run_bind service first _ world
  rw [law]
  cases reply : first.run.run service world with
  | mk result later => cases result <;> rfl

theorem run_sequence_ok {first : ExceptT ε Plan α} {rest : α → ExceptT ε Plan β} {world later : σ}
    {answer : α} (done : first.run.run service world = (.ok answer, later)) :
    (first >>= rest).run.run service world = (rest answer).run.run service later := by
  rw [run_sequence, done]

theorem run_fetch (fetch : Fetch α) (world : σ) :
    (liftM fetch : Action α).run.run service world =
      ((fetch.run.run service world).1.mapError .store, (fetch.run.run service world).2) :=
  Plan.run_bind service fetch _ world

theorem run_plan (plan : Plan α) (world : σ) :
    (liftM plan : Action α).run.run service world =
      (.ok (plan.run service world).1, (plan.run service world).2) := by
  have lifted : (liftM plan : Fetch α).run.run service world =
      (.ok (plan.run service world).1, (plan.run service world).2) :=
    Plan.run_bind service plan _ world
  have adapted := run_fetch service (liftM plan : Fetch α) world
  rw [lifted] at adapted
  exact adapted

end StreamCatalog
