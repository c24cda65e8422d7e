import ClusterGateway.Metrics
import ClusterGateway.Net.Address
import ClusterGateway.Pool.Basic

/-! # Admission of requests to a pool

A request takes a permit of the limiter of its path and is given a host. What it gets is a guard,
which it gives back when it is done. A request without a permit is refused, or waits for one if its
limiter grants time; the functions here are the steps of a request between which others may act.
Each step tells which waiting requests it wakes.
-/

namespace ClusterGateway

/-- Why a request was not handed to a host. -/
inductive DispatchError where
  | denied (client : IpAddress)
  /-- No pattern covers the path. -/
  | noRoute (path : String)
  | throttled (pattern path : String)
  | noHost (pattern : String)
  | shuttingDown
deriving DecidableEq, Repr

instance : Report DispatchError where
  kind
    | .denied _ => .validation
    | .noRoute _ => .notFound
    | .throttled _ _ => .capacity
    | .noHost _ => .notFound
    | .shuttingDown => .internal
  message
    | .denied client => "client " ++ client.text ++ " is denied by the access control list"
    | .noRoute path => "no route for path '" ++ path ++ "'"
    | .throttled pattern path => "rate limit exceeded for '" ++ pattern ++ path ++ "'"
    | .noHost pattern => "no alive host in pool '" ++ pattern ++ "'"
    | .shuttingDown => "node is shutting down"

namespace DispatchError

/-- The decision that is counted. -/
def outcome : DispatchError → Outcome
  | denied _ => .denied
  | noRoute _ => .notFound
  | throttled _ _ => .throttled
  | noHost _ => .noHost
  | shuttingDown => .shuttingDown

/-- The HTTP status with which a front end answers. -/
def httpStatus : DispatchError → Nat
  | denied _ => 403
  | noHost _ => 502
  | shuttingDown => 503
  | noRoute path => (Report.kind (noRoute path)).httpStatus
  | throttled pattern path => (Report.kind (throttled pattern path)).httpStatus

end DispatchError

/-- What a request holds while it is served. -/
structure Guard where
  serial : Nat
  /-- The number of the limiter whose permit is held. -/
  limiter : Nat
  pattern : String
  host : String
  /-- The address to which the request goes. -/
  target : WebUrl
  path : String
deriving DecidableEq, Repr, Inhabited

/-- How a request stands. -/
inductive Admission where
  /-- It has its host. -/
  | granted (guard : Guard)
  | refused (error : DispatchError)
  /-- It waits for a permit, no longer than so many milliseconds. -/
  | waiting (time : Nat)
deriving Repr

/-- How a request stands after a step, and the waiting requests that the step wakes. -/
structure Turn where
  /-- How the request stands. -/
  admission : Admission
  /-- The numbers of the requests that are woken. -/
  woken : List Nat := []
deriving Repr

namespace Pool

def waiter? (p : Pool) (ticket : Nat) : Option Waiter := p.waiting.find? (·.ticket = ticket)

/-- Changes a limiter. -/
def putLimiter (p : Pool) (number : Nat) (limiter : Limiter) : Pool :=
  { p with limiters := p.limiters.set number limiter }

/-- Gives a permit back; answers with the requests that this wakes. -/
def giveBack (p : Pool) (number : Nat) : List Nat × Pool :=
  match p.limiters[number]? with
  | none => ([], p)
  | some l =>
    let (woken, l) := l.release
    (woken.toList, p.putLimiter number l)

/-- The host for a client with its address. -/
def choose (p : Pool) (client : String) : Option (String × WebUrl) × Pool :=
  match p.balancer.balance client with
  | .error _ => (none, p)
  | .ok (host, balancer) =>
    ((p.hosts.get? host).map fun h => (host, h.target), { p with balancer })

/-- Serves a request that has its permit. Without a host the permit is given back. -/
def serve (p : Pool) (path client : String) (number : Nat) : Turn × Pool :=
  match p.choose client with
  | (some (host, target), p) =>
    ({ admission := .granted
        { serial := p.serial, limiter := number, pattern := p.pattern, host, target, path } }, p)
  | (none, p) =>
    let (woken, p) := p.giveBack number
    ({ admission := .refused (.noHost p.pattern), woken }, p)

/-- The refusal of a request without a permit. -/
def throttled (p : Pool) (path : String) : DispatchError := .throttled p.pattern path

/-- The number of the limiter of a path; a path without one is given one. -/
def limiterFor (p : Pool) (path : String) : Nat × Pool :=
  match p.installed.get? path with
  | some number => (number, p)
  | none => (p.limiters.length, p.installLimiter path (Limiter.ofKind .qps))

/-- A request comes. The token buckets are at the time `instant`. -/
def acquire (p : Pool) (ticket : Nat) (path client : String) (instant : Nat) : Turn × Pool :=
  let (number, p) := p.limiterFor path
  match p.limiters[number]? with
  | none => ({ admission := .refused (p.throttled path) }, p)
  | some l =>
    if l.timeout = 0 then
      match l.take? instant with
      | some l => (p.putLimiter number l).serve path client number
      | none => ({ admission := .refused (p.throttled path) }, p)
    else
      match l.attempt ticket instant with
      | (true, l) => (p.putLimiter number l).serve path client number
      | (false, after) =>
        ({ admission := .waiting l.timeout },
          { p.putLimiter number after with
            waiting := p.waiting ++ [{ ticket, path, client, limiter := number }] })

/-- A request waits no more. -/
def dismiss (p : Pool) (ticket : Nat) : Pool :=
  { p with waiting := p.waiting.filter (·.ticket ≠ ticket) }

/-- A woken request looks for a permit again; none if no such request waits. -/
def look (p : Pool) (ticket : Nat) (instant : Nat) : Option (Turn × Pool) := do
  let w ← p.waiter? ticket
  let l ← p.limiters[w.limiter]?
  match l.attempt ticket instant with
  | (true, l) => some (((p.putLimiter w.limiter l).dismiss ticket).serve w.path w.client w.limiter)
  | (false, after) =>
    some ({ admission := .waiting l.timeout }, p.putLimiter w.limiter after)

/-- The time of a waiting request is over; none if no such request waits. -/
def expire (p : Pool) (ticket : Nat) : Option (Turn × Pool) := do
  let w ← p.waiter? ticket
  let l ← p.limiters[w.limiter]?
  let (woken, l) := l.abandon ticket
  some ({ admission := .refused (p.throttled w.path), woken := woken.toList },
    (p.putLimiter w.limiter l).dismiss ticket)

end Pool

end ClusterGateway
