import ClusterGateway.Proofs.Route.InFlight

/-! # What is counted, and what is not

The answer to a call is counted once, when it is given. Nothing else that happens at a table counts
an answer: a change of the pools touches no more of the metrics than the number of pools, and a call
that waits or goes away touches none of them. Nor does anything but the request to stop make a node
stop.
-/

namespace ClusterGateway

theorem Dict.size_map {α β : Type} (f : String → α → β) (d : Dict α) : (d.map f).size = d.size :=
  List.length_map _

namespace Metrics

/-- Takes in how a call stands: its answer is counted, once it has one. -/
def withAnswer (m : Metrics) : Admission → Metrics
  | .granted _ => m.recordDispatch Outcome.routed.label
  | .refused error => m.recordDispatch error.outcome.label
  | .waiting _ => m

/-- Taking in how a call stands touches nothing but the counts of answers. -/
theorem withAnswer_eq (m : Metrics) (admission : Admission) :
    m.withAnswer admission = { m with dispatched := (m.withAnswer admission).dispatched } := by
  cases admission <;> rfl

end Metrics

namespace Table

variable {t u v : Table} {p : Pool}

theorem size_putPool (t : Table) (p : Pool) : (t.putPool p).router.size = t.router.size :=
  Dict.size_map _ _

/-! ### Calls -/

/-- A step of a call leaves alone which patterns there are, what is blocked and whether the node
stops. -/
structure Sits (t u : Table) : Prop where
  size : u.router.size = t.router.size
  acl : u.acl = t.acl
  stopping : u.stopping = t.stopping

theorem Sits.refl (t : Table) : t.Sits t := ⟨rfl, rfl, rfl⟩

theorem sits_settle (t : Table) (turn : Turn) : t.Sits (t.settle turn) := by
  rw [settle]
  split <;> exact ⟨rfl, rfl, rfl⟩

theorem sits_putPool (t : Table) (p : Pool) : t.Sits (t.putPool p) := ⟨size_putPool t p, rfl, rfl⟩

theorem Sits.trans (first : t.Sits u) (second : u.Sits v) : t.Sits v :=
  ⟨second.size.trans first.size, second.acl.trans first.acl,
    second.stopping.trans first.stopping⟩

/-- Taking in a turn of a call counts its answer, if it has one. -/
theorem metrics_settle (t : Table) (turn : Turn) :
    (t.settle turn).metrics = t.metrics.withAnswer turn.admission := by
  rw [settle]
  split <;> next equal => rw [equal]; rfl

/-- What a turn of a call makes of a table: its answer is counted, and no gauge changes. -/
structure Tells (t : Table) (result : Turn × Table) : Prop where
  sits : t.Sits result.2
  metrics : result.2.metrics = t.metrics.withAnswer result.1.admission

theorem tells_refuse (t : Table) (error : DispatchError) : t.Tells (t.refuse error) :=
  ⟨⟨rfl, rfl, rfl⟩, rfl⟩

/-- A call that comes to a pool is counted once it is answered. -/
theorem tells_take (t : Table) (p : Pool) (ticket : Nat) (path client : String) (instant : Nat) :
    t.Tells (t.take p ticket path client instant) := by
  let entered : Table := { t with inFlight := t.inFlight + 1 }
  have within : t.Sits entered := ⟨rfl, rfl, rfl⟩
  exact ⟨(within.trans (sits_putPool entered _)).trans (sits_settle _ _), metrics_settle _ _⟩

/-- A call that comes for a path is counted once it is answered, whether a pool is found for it or
not. -/
theorem tells_dispatch (t : Table) (ticket : Nat) (path : String) (client : IpAddress)
    (instant : Nat) : t.Tells (t.dispatch ticket path client instant) := by
  rcases t.dispatch_spec ticket path client instant with
    ⟨error, whole⟩ | ⟨p, -, rest, whole⟩ <;> rw [whole]
  · exact tells_refuse t error
  · exact tells_take t p ticket rest client.text instant

theorem tells_dispatchTo (t : Table) (p : Pool) (ticket : Nat) (path : String) (client : IpAddress)
    (instant : Nat) : t.Tells (t.dispatchTo p ticket path client instant) := by
  rcases t.dispatchTo_spec p ticket path client instant with ⟨error, whole⟩ | whole <;> rw [whole]
  · exact tells_refuse t error
  · exact tells_take t p ticket path client.text instant

/-- A waiting call that has a turn is counted once it is answered. -/
theorem tells_resume {step : Pool → Option (Turn × Pool)} {ticket : Nat} {result : Turn × Table}
    (resumed : t.resume step ticket = some result) : t.Tells result := by
  obtain ⟨p, turn, q, -, -, rfl⟩ := resume_spec resumed
  exact ⟨(sits_putPool t q).trans (sits_settle _ turn), metrics_settle _ turn⟩

/-- A call that goes away while it waits is not counted. -/
theorem sits_cancel {ticket : Nat} (cancelled : t.cancel ticket = some u) :
    t.Sits u ∧ u.metrics = t.metrics := by
  simp only [cancel, Option.bind_eq_bind, Option.bind_eq_some_iff] at cancelled
  obtain ⟨p, -, ⟨turn, q⟩, -, whole⟩ := cancelled
  obtain rfl := Option.some.inj whole
  exact ⟨⟨size_putPool t q, rfl, rfl⟩, rfl⟩

/-- A guard that is given back is not counted again. -/
theorem sits_finish (t : Table) (guard : Guard) :
    t.Sits (t.finish guard).2 ∧ (t.finish guard).2.metrics = t.metrics := by
  rw [finish]
  split
  · exact ⟨⟨rfl, rfl, rfl⟩, rfl⟩
  · next p _ => exact ⟨⟨size_putPool t _, rfl, rfl⟩, rfl⟩

/-- A change of one pool is not counted. -/
theorem sits_changePool (t : Table) (serial : Nat) (change : Pool → Option Pool) :
    t.Sits (t.changePool serial change) ∧ (t.changePool serial change).metrics = t.metrics := by
  rcases t.changePool_spec serial change with same | ⟨p, q, -, -, swapped⟩
  · rw [same]
    exact ⟨.refl t, rfl⟩
  · rw [swapped]
    exact ⟨sits_putPool t q, rfl⟩

/-- A step of a check is not counted. -/
theorem sits_check (t : Table) {event : Traffic} (check : event.IsCheck) :
    t.Sits (t.serve event) ∧ (t.serve event).metrics = t.metrics := by
  cases event with
  | dispatch | dispatchTo | look | expire | finish => exact check.elim
  | verdict serial host reachable => exact sits_changePool t serial _
  | settleChecks serial now => exact sits_changePool t serial _
  | startProbe serial check now => exact sits_changePool t serial _
  | endProbe serial check reachable => exact sits_changePool t serial _

/-! ### Changes of the pools -/

/-- A change of the pools leaves alone what is blocked, whether the node stops, and the metrics
apart from the number of pools. -/
structure Refits (t u : Table) : Prop where
  acl : u.acl = t.acl
  stopping : u.stopping = t.stopping
  metrics : u.metrics = { t.metrics with pools := u.metrics.pools }

theorem Refits.refl (t : Table) : t.Refits t := ⟨rfl, rfl, rfl⟩

theorem Refits.trans (first : t.Refits u) (second : u.Refits v) : t.Refits v := by
  refine ⟨second.acl.trans first.acl, second.stopping.trans first.stopping, ?_⟩
  rw [second.metrics, first.metrics]

/-- An attempt touches no more of the metrics than the change does when it succeeds. -/
theorem Refits.attempt {ε : Type} {result : Except ε Table}
    (refits : ∀ u, result = .ok u → t.Refits u) : t.Refits (t.attempt result) :=
  attempt_rec (.refl t) refits

/-- Building a pool for a location touches no more of the metrics than the number of pools. -/
theorem refits_insertPool {l : Location} {added : Bool}
    (inserted : t.insertPool l = .ok (added, u)) : t.Refits u := by
  rcases insertPool_spec inserted with ⟨-, rfl⟩ | ⟨-, -, p, -, rfl⟩
  · exact .refl _
  · exact ⟨rfl, rfl, rfl⟩

theorem refits_addPool {l : Location} {added : Bool} (answered : t.addPool l = .ok (added, u)) :
    t.Refits u := by
  rw [addPool] at answered
  obtain ⟨⟨fresh, v⟩, inserted, same⟩ := exists_of_map_ok answered
  obtain ⟨-, rfl⟩ := Prod.mk.inj same
  have refits := refits_insertPool inserted
  cases fresh with
  | true => exact refits.trans ⟨rfl, rfl, rfl⟩
  | false => exact refits

theorem refits_removePool {pattern : String} (removed : t.removePool pattern = .ok u) :
    t.Refits u := by
  obtain ⟨p, -, rfl⟩ := removePool_spec removed
  exact ⟨rfl, rfl, rfl⟩

theorem refits_addHost {pattern raw key : String} (added : t.addHost pattern raw = .ok (key, u)) :
    t.Refits u := by
  obtain ⟨p, q, change, -, -, rfl⟩ := addHost_spec added
  exact ⟨rfl, rfl, rfl⟩

theorem refits_removeHost (t : Table) (pattern host : String) (checksStop : Bool) :
    t.Refits (t.removeHost pattern host checksStop).2 := by
  rw [removeHost]
  dsimp only
  split
  · exact .refl t
  · split
    · exact ⟨rfl, rfl, rfl⟩
    · exact .refl t

theorem refits_changeBalancer {pattern mode : String}
    (changed : t.changeBalancer pattern mode = .ok u) : t.Refits u := by
  obtain ⟨p, q, -, -, rfl⟩ := changeBalancer_spec changed
  exact ⟨rfl, rfl, rfl⟩

theorem refits_setLimiter {s : LimiterSetting} {instant : Nat}
    (changed : t.setLimiter s instant = .ok u) : t.Refits u := by
  obtain ⟨p, limiter, -, -, rfl⟩ := setLimiter_spec changed
  exact ⟨rfl, rfl, rfl⟩

theorem refits_cleared (t : Table) : t.Refits t.cleared := by
  rw [cleared, foldl_retire]
  exact ⟨rfl, rfl, rfl⟩

theorem refits_shutdownPools (t : Table) : t.Refits t.shutdownPools :=
  (refits_cleared t).trans ⟨rfl, rfl, rfl⟩

theorem refits_rebuild (t : Table) (s : RoutingState) (instant : Nat) :
    t.Refits (t.rebuild s instant) :=
  rebuild_rec s instant (.refl t)
    (fun before _ inserted => before.trans (refits_insertPool inserted))
    fun before changed => before.trans (refits_setLimiter changed)

/-- A table that takes over a state shows its new pools, and blocks other networks if it is given
any. -/
theorem restore_spec (t : Table) (s : RoutingState) (acl : Option AccessList) (instant : Nat) :
    (t.restore s acl instant).acl = acl.getD t.acl ∧
      (t.restore s acl instant).stopping = t.stopping ∧
      (t.restore s acl instant).metrics =
        { t.metrics with pools := (t.restore s acl instant).router.size } := by
  have rebuilt := (refits_cleared t).trans (refits_rebuild t.cleared s instant)
  have whole : (t.restore s acl instant).metrics =
      { (t.cleared.rebuild s instant).metrics with
        pools := (t.restore s acl instant).router.size } := rfl
  exact ⟨rfl, rebuilt.stopping, by rw [whole, rebuilt.metrics]⟩

/-- Nothing but the request to stop makes a node stop. -/
theorem stopping_perform (t : Table) {operation : Operation} (change : operation.IsChange) :
    (t.perform operation).stopping = t.stopping := by
  have attempt {result : Except RoutingError Table}
      (refits : ∀ u, result = .ok u → t.Refits u) : (t.attempt result).stopping = t.stopping :=
    (Refits.attempt refits).stopping
  cases operation with
  | addPool l =>
      refine attempt fun u made => ?_
      obtain ⟨⟨added, u⟩, answered, rfl⟩ := exists_of_map_ok made
      exact refits_addPool answered
  | removePool pattern => exact attempt fun u => refits_removePool
  | addHost pattern raw =>
      refine attempt fun u made => ?_
      obtain ⟨⟨key, u⟩, added, rfl⟩ := exists_of_map_ok made
      exact refits_addHost added
  | removeHost pattern host checksStop => exact (refits_removeHost t pattern host checksStop).stopping
  | changeBalancer pattern mode => exact attempt fun u => refits_changeBalancer
  | setLimiter s instant => exact attempt fun u => refits_setLimiter
  | restore s acl instant => exact (restore_spec t s acl instant).2.1
  | shutdownPools => exact (refits_shutdownPools t).stopping
  | traffic event => exact (sits_check t change).1.stopping

end Table

/-! ### Happenings -/

/-- Whether what happens is a step of a call or of a check. -/
def Happening.IsStep : Happening → Prop
  | .perform (.traffic _) _ => True
  | .perform _ _ | .block _ | .stop => False
  | .dispatch .. | .dispatchTo .. | .look .. | .expire .. | .cancel .. | .drop .. => True

namespace Ledger

/-- How the call stands that has a turn when something happens, if one has. -/
def admission? (l : Ledger) : Happening → Option Admission
  | .dispatch path client instant =>
    some (l.table.dispatch l.calls path client instant).1.admission
  | .dispatchTo serial path client instant =>
    (l.table.poolBySerial? serial).map fun p =>
      (l.table.dispatchTo p l.calls path client instant).1.admission
  | .look ticket instant => (l.table.look ticket instant).map (·.1.admission)
  | .expire ticket => (l.table.expire ticket).map (·.1.admission)
  | _ => none

/-- After a turn the ledger has the table that the turn left. -/
theorem table_conclude (l : Ledger) (ticket : Nat) (result : Turn × Table) :
    (l.conclude ticket result).table = result.2 := by
  rw [conclude]
  split <;> rfl

/-- A step of a call counts its answer if it has one, and nothing else is counted. -/
theorem tells_step (l : Ledger) {happening : Happening} (ordinary : happening.IsStep) :
    l.table.Sits (l.step happening).table ∧
      (l.step happening).table.metrics =
        ((l.admission? happening).map l.table.metrics.withAnswer).getD l.table.metrics := by
  have told {result : Turn × Table} (ticket calls : Nat) (tells : l.table.Tells result) :
      l.table.Sits (({ l with calls } : Ledger).conclude ticket result).table ∧
        (({ l with calls } : Ledger).conclude ticket result).table.metrics =
          l.table.metrics.withAnswer result.1.admission := by
    rw [table_conclude]
    exact ⟨tells.sits, tells.metrics⟩
  cases happening with
  | dispatch path client instant =>
      exact told _ _ (l.table.tells_dispatch l.calls path client instant)
  | dispatchTo serial path client instant =>
      rw [step, admission?]
      cases l.table.poolBySerial? serial with
      | none => exact ⟨.refl _, rfl⟩
      | some p => exact told _ _ (l.table.tells_dispatchTo p l.calls path client instant)
  | look ticket instant =>
      rw [step, admission?]
      cases looked : l.table.look ticket instant with
      | none => exact ⟨.refl _, rfl⟩
      | some result => exact told _ l.calls (Table.tells_resume looked)
  | expire ticket =>
      rw [step, admission?]
      cases expired : l.table.expire ticket with
      | none => exact ⟨.refl _, rfl⟩
      | some result => exact told _ l.calls (Table.tells_resume expired)
  | cancel ticket =>
      rw [step]
      cases cancelled : l.table.cancel ticket with
      | none => exact ⟨.refl _, rfl⟩
      | some u => exact Table.sits_cancel cancelled
  | drop guard =>
      rw [step]
      split
      · exact l.table.sits_finish guard
      · exact ⟨.refl _, rfl⟩
  | perform operation change =>
      cases operation with
      | traffic event => exact l.table.sits_check change
      | addPool | removePool | addHost | removeHost | changeBalancer | setLimiter | restore
      | shutdownPools => exact ordinary.elim
  | block | stop => exact ordinary.elim

end Ledger

end ClusterGateway
