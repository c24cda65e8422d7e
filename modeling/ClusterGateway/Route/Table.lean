import ClusterGateway.Acl.List
import ClusterGateway.Metrics
import ClusterGateway.Pool.Admission
import ClusterGateway.Replication.Snapshot
import ClusterGateway.Route.Router

/-! # The routing table

The table of a node holds its pools under their patterns, and for each pattern the location and the
limiter settings from which the pool can be built again. Together with the blocked networks these
are what the nodes of a cluster agree on. Pools that were replaced or removed are kept apart, for
requests may still hold permits of them.
-/

namespace ClusterGateway

/-- Why the table refused a request. -/
inductive RoutingError where
  | badLocation (pattern : String) (fault : LocationFault)
  | noPool (pattern : String)
  | noLimiter (pattern path : String)
  | pool (error : PoolError)
  | limiter (error : LimiterError)
deriving DecidableEq, Repr

instance : Report RoutingError where
  kind
    | .badLocation _ _ => .validation
    | .noPool _ => .notFound
    | .noLimiter _ _ => .notFound
    | .pool error => Report.kind error
    | .limiter error => Report.kind error
  message
    | .badLocation pattern fault => Location.faultText pattern fault
    | .noPool pattern => "no pool registered for pattern '" ++ pattern ++ "'"
    | .noLimiter pattern path => "no limiter installed for '" ++ pattern ++ path ++ "'"
    | .pool error => Report.message error
    | .limiter error => Report.message error

/-- The live settings of a limiter, as shown to an operator. -/
structure LimiterStatus where
  pattern : String
  path : String
  limiter : Limiter

/-- The routing table of a node. -/
structure Table where
  settings : PoolSettings := {}
  /-- How many milliseconds the removal of a host waits for the end of its checks. -/
  hostWait : Nat := 5000
  router : Router Pool := {}
  /-- The locations from which the pools were built, as changed since. -/
  locations : Dict Location := ∅
  limiters : Dict (List LimiterSetting) := ∅
  acl : AccessList := .empty
  metrics : Metrics := {}
  retired : List Pool := []
  nextSerial : Nat := 0
  stopping : Bool := false
  /-- The number of requests that are served or wait for a permit. -/
  inFlight : Nat := 0
deriving Inhabited

namespace Table

/-! ### Look-ups -/

def pool? (t : Table) (pattern : String) : Option Pool := t.router.get? pattern

/-- The pool of a pattern, or the error that there is none. -/
def requirePool (t : Table) (pattern : String) : Except RoutingError Pool :=
  match t.pool? pattern with
  | some p => .ok p
  | none => .error (.noPool pattern)

/-- All pools, also those out of service. -/
def allPools (t : Table) : List Pool := t.router.targets ++ t.retired

/-- The pool with a number, also one out of service. -/
def poolBySerial? (t : Table) (serial : Nat) : Option Pool :=
  t.allPools.find? (·.serial = serial)

def putPool (t : Table) (p : Pool) : Table :=
  let swap (q : Pool) : Pool := if q.serial = p.serial then p else q
  { t with
    router := ⟨t.router.entries.map fun _ q => swap q⟩
    retired := t.retired.map swap }

/-- The patterns in ascending order. -/
def patterns (t : Table) : List String := t.router.patterns

/-- The pools as shown to an operator, in the order of their patterns. -/
def poolInfos (t : Table) : List PoolInfo := t.router.targets.map Pool.info

def location? (t : Table) (pattern : String) : Option Location := t.locations.get? pattern

def limiterSettings (t : Table) (pattern : String) : List LimiterSetting :=
  (t.limiters.get? pattern).getD []

/-- The paths below a pattern that have a limiter. -/
def methods (t : Table) (pattern : String) : Except RoutingError (List String) :=
  (t.requirePool pattern).map Pool.methods

/-- The live settings of the limiter of a path. -/
def limiterStatus (t : Table) (pattern path : String) : Except RoutingError LimiterStatus := do
  let p ← t.requirePool pattern
  match p.limiter? path with
  | some limiter => return { pattern, path, limiter }
  | none => throw (.noLimiter pattern path)

/-- The table for diagnostics. -/
def shown (t : Table) : String :=
  "RoutingTable \x7b patterns: " ++ Text.quotedList "[" "]" t.patterns ++ ", .. \x7d"

/-! ### Pools -/

/-- Shows the number of pools in the metrics. -/
def countPools (t : Table) : Table :=
  { t with metrics := { t.metrics with pools := t.router.size } }

/-- Builds the pool of a location, unless its pattern has one; answers whether it did. -/
def insertPool (t : Table) (l : Location) : Except RoutingError (Bool × Table) := do
  match Pattern.check l.pattern with
  | .error fault => throw (.badLocation l.pattern (.pattern fault))
  | .ok () => pure ()
  if l.proxyPass.isEmpty then throw (.badLocation l.pattern .noHosts)
  if t.router.contains l.pattern then return (false, t)
  let p ← (Pool.build t.nextSerial t.settings l).mapError .pool
  return (true, { t with
    router := t.router.insert l.pattern p
    locations := t.locations.insert l.pattern l
    nextSerial := t.nextSerial + 1 })

/-- Adds the pool of a location; answers whether its pattern had none. -/
def addPool (t : Table) (l : Location) : Except RoutingError (Bool × Table) :=
  (t.insertPool l).map fun (added, t) => (added, if added then t.countPools else t)

/-- Puts a pool out of service. -/
def retire (t : Table) (p : Pool) : Table := { t with retired := t.retired ++ [p.shutdown] }

/-- Removes the pool of a pattern with its location and limiter settings. -/
def removePool (t : Table) (pattern : String) : Except RoutingError Table :=
  (t.requirePool pattern).map fun p =>
    let left : Table := { t with
      router := t.router.erase pattern
      locations := t.locations.erase pattern
      limiters := t.limiters.erase pattern }
    left.countPools.retire p

/-- A table without pools, with those of `t` out of service. -/
def cleared (t : Table) : Table :=
  t.router.targets.foldl retire { t with router := {}, locations := ∅, limiters := ∅ }

/-- Shuts all pools down and removes them. -/
def shutdownPools (t : Table) : Table := t.cleared.countPools

/-! ### Hosts -/

def changeBackends (t : Table) (pattern : String) (change : List String → List String) : Table :=
  { t with
    locations := t.locations.modify pattern fun l => { l with proxyPass := change l.proxyPass } }

/-- Adds a host to a pool and a backend to its location, unless one leads to that host already;
answers with the address of the host. -/
def addHost (t : Table) (pattern raw : String) : Except RoutingError (String × Table) := do
  let p ← t.requirePool pattern
  let (key, p) ← (p.addHost raw).mapError .pool
  let t := t.putPool p
  return (key, t.changeBackends pattern fun backends =>
    if backends.any (Backend.address? · = some key) then backends else backends ++ [raw])

/-- Removes a host, given by its address or as a backend, and all backends that lead to it. -/
def removeHost (t : Table) (pattern host : String) (checksStop : Bool) :
    Except RoutingError Unit × Table :=
  let key := (Backend.address? host).getD host
  match t.pool? pattern with
  | none => (.error (.noPool pattern), t)
  | some p =>
    if p.containsHost key then
      let t := t.changeBackends pattern fun backends =>
        backends.filter (Backend.address? · ≠ some key)
      let (result, p) := p.removeHost key checksStop
      (result.mapError .pool, t.putPool p)
    else (.error (.pool (.hostNotFound pattern key)), t)

/-- Lets the hosts of a pool be chosen in another way. -/
def changeBalancer (t : Table) (pattern mode : String) : Except RoutingError Table := do
  let p ← t.requirePool pattern
  let p ← (p.changeBalancer mode).mapError .pool
  let t := t.putPool p
  return { t with locations := t.locations.modify pattern fun l => { l with balanceMode := mode } }

/-! ### Limiters -/

def limiterOf (s : LimiterSetting) (instant : Nat) : Except LimiterError Limiter := do
  let fresh ← Limiter.build s.kind
  let rated :=
    if s.speed ≠ 0 ∨ s.volume ≠ 0 then (fresh.setRate s.volume s.speed instant).2 else fresh
  return if s.duration ≠ 0 then rated.setTimeout s.duration else rated

/-- Gives a path the limiter of a setting and records the setting in place of the one for that path.
-/
def setLimiter (t : Table) (s : LimiterSetting) (instant : Nat) : Except RoutingError Table := do
  let p ← t.requirePool s.pattern
  let limiter ← (limiterOf s instant).mapError .limiter
  let others := (t.limiterSettings s.pattern).filter (·.path ≠ s.path)
  let t := t.putPool (p.installLimiter s.path limiter)
  return { t with limiters := t.limiters.insert s.pattern (others ++ [s]) }

/-! ### Snapshots -/

/-- The part of the table on which a cluster agrees. -/
def state (t : Table) : RoutingState :=
  { routerType := Router.kind, locations := t.locations, limiters := t.limiters }

/-- Does something if it can be done. -/
def attempt {ε : Type} (t : Table) (change : Except ε Table) : Table :=
  match change with
  | .ok changed => changed
  | .error _ => t

/-- Adds the pools of the locations in a state, and the limiters recorded under their own pattern.
What cannot be built is left out. -/
def rebuild (t : Table) (s : RoutingState) (instant : Nat) : Table :=
  let withPools := s.locations.values.foldl
    (fun t l => t.attempt ((t.insertPool l).map (·.2))) t
  s.limiters.entries.foldl
    (fun t e =>
      (e.2.filter (·.pattern = e.1)).foldl (fun t l => t.attempt (t.setLimiter l instant)) t)
    withPools

/-- Replaces all pools by those of a state, and the blocked networks if others are given. -/
def restore (t : Table) (s : RoutingState) (acl : Option AccessList) (instant : Nat) : Table :=
  let rebuilt := t.cleared.rebuild s instant
  ({ rebuilt with acl := acl.getD t.acl } : Table).countPools

end Table

end ClusterGateway
