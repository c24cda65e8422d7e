import ClusterGateway.Balance.Balancer
import ClusterGateway.Limit.Limiter
import ClusterGateway.Location.Backend
import ClusterGateway.Logging
import ClusterGateway.Pool.Check

/-! # Pools of hosts

A pool serves one pattern. It knows its hosts by host and port and whether each is alive; its
balancer chooses among those that are. Every path below the pattern has a limiter of its own. A
limiter that is replaced stays known by its number, since requests may still hold permits of it.
-/

namespace ClusterGateway

/-- Why a pool refused a change. -/
inductive PoolError where
  | badBackend (error : BackendError)
  | hostNotFound (pattern host : String)
  | checkStillRuns (host : String)
  | balancer (error : BalancerError)
deriving DecidableEq, Repr

instance : Report PoolError where
  kind
    | .badBackend _ => .validation
    | .hostNotFound _ _ => .notFound
    | .checkStillRuns _ => .internal
    | .balancer error => Report.kind error
  message
    | .badBackend error => "invalid backend: " ++ error.message
    | .hostNotFound pattern host => "host '" ++ host ++ "' is not part of pool '" ++ pattern ++ "'"
    | .checkStillRuns host => "health check for host '" ++ host ++ "' did not stop in time"
    | .balancer error => Report.message error

/-- A host of a pool. -/
structure Host where
  target : WebUrl
  /-- Whether the host serves, as far as is known. -/
  alive : Bool := true
  check : Option Nat := none
deriving DecidableEq, Repr, Inhabited

/-- A request that waits for a permit. -/
structure Waiter where
  ticket : Nat
  path : String
  client : String
  limiter : Nat
deriving DecidableEq, Repr, Inhabited

/-- How pools are set up. -/
structure PoolSettings where
  /-- How many points a host has on a hash ring. -/
  replicas : Nat := 50
  /-- The time between two checks of a host, if hosts are checked. -/
  checkInterval : Option Nat := none
deriving DecidableEq, Repr, Inhabited

/-- A pool of hosts. -/
structure Pool where
  /-- The number by which the pool is told from others that served the same pattern. -/
  serial : Nat
  pattern : String
  hosts : Dict Host
  /-- What chooses among the hosts that are alive. -/
  balancer : Balancer
  settings : PoolSettings
  /-- All limiters that were ever installed, by their numbers. -/
  limiters : List Limiter := []
  /-- The number of the limiter of each path. -/
  installed : Dict Nat := ∅
  waiting : List Waiter := []
  /-- The loops that check or checked hosts, by their numbers. -/
  checks : List CheckLoop := []
  shutDown : Bool := false
deriving Inhabited

/-- A host as shown to an operator. -/
structure HostStatus where
  host : String
  target : String
  alive : Bool
deriving DecidableEq, Repr

/-- A pool as shown to an operator. -/
structure PoolInfo where
  pattern : String
  /-- The way in which a host is chosen. -/
  balanceMode : String
  /-- The hosts in ascending order. -/
  hosts : List HostStatus
  /-- The paths that have a limiter, in ascending order. -/
  methods : List String
deriving DecidableEq, Repr

namespace Pool

/-! ### Building -/

/-- Hosts under their addresses, and the addresses in the order of their first appearance. -/
def gather (found : Dict Host × List String) (raw : String) :
    Except PoolError (Dict Host × List String) :=
  match Backend.parse raw with
  | .error error => .error (.badBackend error)
  | .ok target =>
    let key := target.address
    if found.1.contains key then .ok found
    else .ok (found.1.insert key { target }, found.2 ++ [key])

/-- Gives a host a loop that checks it, if hosts are checked. -/
def startCheck (p : Pool) (host : String) : Pool :=
  if p.settings.checkInterval.isNone then p
  else
    { p with
      hosts := p.hosts.modify host fun h => { h with check := some p.checks.length }
      checks := p.checks ++ [{ host, cancelled := p.shutDown }] }

/-- The pool of a location; all its hosts are alive. -/
def build (serial : Nat) (settings : PoolSettings) (location : Location) :
    Except PoolError Pool := do
  let (hosts, order) ← location.proxyPass.foldlM gather (∅, [])
  let balancer ← (Balancer.build location.balanceMode settings.replicas order).mapError .balancer
  let pool : Pool := { serial, pattern := location.pattern, hosts, balancer, settings }
  return hosts.keys.foldl startCheck pool

/-! ### Hosts -/

def containsHost (p : Pool) (host : String) : Bool := p.hosts.contains host

/-- Whether a host is alive, if it is part of the pool. -/
def isAlive (p : Pool) (host : String) : Option Bool := (p.hosts.get? host).map (·.alive)

/-- Takes in a verdict on a host. -/
def recordProbe (p : Pool) (host : String) (reachable : Bool) : Pool :=
  match p.hosts.get? host with
  | none => p
  | some h =>
    if h.alive = reachable then p
    else
      { p with
        hosts := p.hosts.insert host { h with alive := reachable }
        balancer := if reachable then p.balancer.add host else p.balancer.remove host }

/-- Adds a host, which is alive; answers with its address. Nothing happens if it is there already.
-/
def addHost (p : Pool) (raw : String) : Except PoolError (String × Pool) :=
  match Backend.parse raw with
  | .error error => .error (.badBackend error)
  | .ok target =>
    let key := target.address
    if p.hosts.contains key then .ok (key, p)
    else
      .ok (key, startCheck
        { p with hosts := p.hosts.insert key { target }, balancer := p.balancer.add key } key)

def isChecked (p : Pool) (host : String) : Bool :=
  match (p.hosts.get? host).bind (·.check) with
  | none => false
  | some n => p.checks[n]?.any (!·.hasEnded)

def stopCheck (p : Pool) (host : String) : Pool :=
  match (p.hosts.get? host).bind (·.check) with
  | none => p
  | some n => { p with checks := p.checks.modify n CheckLoop.stop }

/-- Removes a host. The host is gone even if its checks do not stop in time; whether they do so is
told by `checksStop`. -/
def removeHost (p : Pool) (host : String) (checksStop : Bool) : Except PoolError Unit × Pool :=
  if p.hosts.contains host then
    let late := p.isChecked host && !checksStop
    let stopped := p.stopCheck host
    let left := { stopped with hosts := p.hosts.erase host, balancer := p.balancer.remove host }
    (if late then .error (.checkStillRuns host) else .ok (), left)
  else (.error (.hostNotFound p.pattern host), p)

/-- The hosts that are alive, in ascending order. -/
def aliveHosts (p : Pool) : List String := (p.hosts.filter fun _ h => h.alive).keys

/-- Lets the hosts be chosen in another way, starting from those that are alive. -/
def changeBalancer (p : Pool) (mode : String) : Except PoolError Pool :=
  match Balancer.build mode p.settings.replicas p.aliveHosts with
  | .ok balancer => .ok { p with balancer }
  | .error error => .error (.balancer error)

/-! ### Limiters -/

def limiter? (p : Pool) (path : String) : Option Limiter :=
  (p.installed.get? path).bind fun n => p.limiters[n]?

/-- Gives a path a limiter, in place of the one it had. -/
def installLimiter (p : Pool) (path : String) (limiter : Limiter) : Pool :=
  { p with
    limiters := p.limiters ++ [limiter]
    installed := p.installed.insert path p.limiters.length }

/-- Gives a path without a limiter one that lets every request in. -/
def provision (p : Pool) (path : String) : Except LimiterError Pool :=
  if p.installed.contains path then .error (.alreadyExists path)
  else .ok (p.installLimiter path (Limiter.ofKind .qps))

/-- The paths that have a limiter, in ascending order. -/
def methods (p : Pool) : List String := p.installed.keys

/-! ### The pool as a whole -/

/-- Shuts the pool down: its hosts are checked no more. -/
def shutdown (p : Pool) : Pool :=
  { p with shutDown := true, checks := p.checks.map CheckLoop.cancel }

/-- The hosts as shown to an operator. -/
def hostStatuses (p : Pool) : List HostStatus :=
  p.hosts.entries.map fun e => ⟨e.1, e.2.target.text, e.2.alive⟩

/-- The pool as shown to an operator. -/
def info (p : Pool) : PoolInfo :=
  { pattern := p.pattern, balanceMode := p.balancer.mode.name, hosts := p.hostStatuses
    methods := p.methods }

/-- The pool for diagnostics. -/
def shown (p : Pool) : String :=
  "BackendPool \x7b pattern: " ++ Text.quoted p.pattern ++ ", balance_mode: " ++
    Text.quoted p.balancer.mode.name ++ ", hosts: " ++ toString p.hosts.size ++ " \x7d"

/-! ### Checks -/

/-- Lets loops begin and cancelled ones end; answers with the numbers of those that began, and when
each is due. -/
def settleChecks (p : Pool) (now : Nat) : List (Nat × Nat) × Pool :=
  let interval := p.settings.checkInterval.getD 0
  let begun := p.checks.zipIdx.filterMap fun (l, n) =>
    if l.phase = .fresh ∧ !l.cancelled then some (n, now + interval) else none
  (begun, { p with checks := p.checks.map (·.settle now interval) })

/-- Starts a probe that is due; answers with the host that is probed. -/
def startProbe (p : Pool) (check now : Nat) : Option (String × Pool) := do
  let l ← p.checks[check]?
  match l.phase with
  | .resting due =>
    if due ≤ now ∧ !l.cancelled then
      let interval := p.settings.checkInterval.getD 0
      some (l.host, { p with checks := p.checks.modify check (·.startProbe now interval) })
    else none
  | _ => none

/-- Takes in the verdict of a probe; answers with the time at which the next one is due. A loop that
was cancelled in the meantime has ended and takes nothing in. -/
def endProbe (p : Pool) (check : Nat) (reachable : Bool) : Option (Nat × Pool) := do
  let l ← p.checks[check]?
  match l.phase with
  | .probing next =>
    let rested := { p with checks := p.checks.modify check CheckLoop.rest }
    some (next, rested.recordProbe l.host reachable)
  | _ => none

end Pool

end ClusterGateway
