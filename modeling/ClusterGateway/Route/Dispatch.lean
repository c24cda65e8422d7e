import ClusterGateway.Route.Table

/-! # Dispatching requests

A request is routed by its path; then the node must not be stopping and the client must not be
blocked; then the pool admits it. Every request that is admitted counts as in flight until it is
refused or its guard is given back, and every decision is counted once.
-/

namespace ClusterGateway.Table

/-- Whether a request of a client is let in at all. -/
def checkClient (t : Table) (client : IpAddress) : Except DispatchError Unit :=
  if t.stopping then .error .shuttingDown
  else if t.acl.isDenied client then .error (.denied client)
  else .ok ()

/-- The pool for a path and the path below its pattern, for a client that is let in. -/
def resolve (t : Table) (path : String) (client : IpAddress) :
    Except DispatchError (Pool × String) :=
  match t.router.route path with
  | none => .error (.noRoute path)
  | some m => (t.checkClient client).map fun _ => (m.target, m.path)

/-- Counts a decision. -/
def countOutcome (t : Table) (outcome : Outcome) : Table :=
  { t with metrics := t.metrics.recordDispatch outcome.label }

/-- One request less is in flight. -/
def leave (t : Table) : Table := { t with inFlight := t.inFlight - 1 }

/-- Takes in how a request stands that is in flight. -/
def settle (t : Table) (turn : Turn) : Table :=
  match turn.admission with
  | .granted _ => t.countOutcome .routed
  | .refused error => (t.countOutcome error.outcome).leave
  | .waiting _ => t

/-- A request comes to a pool. -/
def take (t : Table) (p : Pool) (ticket : Nat) (path client : String) (instant : Nat) :
    Turn × Table :=
  let (turn, p) := p.acquire ticket path client instant
  let entered : Table := { t with inFlight := t.inFlight + 1 }
  (turn, (entered.putPool p).settle turn)

/-- The refusal of a request that is not let in. -/
def refuse (t : Table) (error : DispatchError) : Turn × Table :=
  ({ admission := .refused error }, t.countOutcome error.outcome)

/-- A request for a path comes. -/
def dispatch (t : Table) (ticket : Nat) (path : String) (client : IpAddress) (instant : Nat) :
    Turn × Table :=
  match t.resolve path client with
  | .error error => t.refuse error
  | .ok (p, rest) => t.take p ticket rest client.text instant

/-- A request comes that has been routed to a pool already. -/
def dispatchTo (t : Table) (p : Pool) (ticket : Nat) (path : String) (client : IpAddress)
    (instant : Nat) : Turn × Table :=
  match t.checkClient client with
  | .error error => t.refuse error
  | .ok () => t.take p ticket path client.text instant

/-- Takes in the step of a waiting request. -/
def resume (t : Table) (step : Pool → Option (Turn × Pool)) (ticket : Nat) :
    Option (Turn × Table) := do
  let p ← t.allPools.find? fun p => (p.waiter? ticket).isSome
  let (turn, p) ← step p
  return (turn, (t.putPool p).settle turn)

/-- A woken request looks for a permit again. -/
def look (t : Table) (ticket instant : Nat) : Option (Turn × Table) :=
  t.resume (·.look ticket instant) ticket

/-- The time of a waiting request is over. -/
def expire (t : Table) (ticket : Nat) : Option (Turn × Table) := t.resume (·.expire ticket) ticket

/-- A request is done and gives its guard back; answers with the requests that this wakes. -/
def finish (t : Table) (guard : Guard) : List Nat × Table :=
  match t.poolBySerial? guard.serial with
  | none => ([], t.leave)
  | some p =>
    let (woken, p) := p.giveBack guard.limiter
    (woken, (t.putPool p).leave)

end ClusterGateway.Table
