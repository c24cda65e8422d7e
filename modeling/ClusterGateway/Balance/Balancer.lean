import ClusterGateway.Balance.Ring
import ClusterGateway.Balance.RoundRobin
import ClusterGateway.Fault

/-! # Balancers

A balancer chooses a host for a request. It knows only hosts that are fit to serve, and it works in
one of two modes: by turns, or by the place of the client on a hash ring.
-/

namespace ClusterGateway

/-- Why a balancer refused a request. -/
inductive BalancerError where
  | noHost
  | unsupportedMode (name : String)
deriving DecidableEq, Repr

instance : Report BalancerError where
  kind
    | .noHost => .notFound
    | .unsupportedMode _ => .validation
  message
    | .noHost => "no host available"
    | .unsupportedMode name => "balance mode '" ++ name ++ "' is not supported"

/-- The ways in which a host is chosen. -/
inductive BalanceMode where
  /-- By place on a hash ring. -/
  | consistentHash
  | roundRobin
deriving DecidableEq, Repr, Inhabited

namespace BalanceMode

def name : BalanceMode → String
  | consistentHash => "consistent-hash"
  | roundRobin => "round-robin"

def ofName (name : String) : Except BalancerError BalanceMode :=
  if name = consistentHash.name then .ok consistentHash
  else if name = roundRobin.name then .ok roundRobin
  else .error (.unsupportedMode name)

/-- The names of all modes in ascending order. -/
def names : List String := [consistentHash.name, roundRobin.name]

end BalanceMode

/-- A chooser of hosts. -/
inductive Balancer where
  | turns (rotation : RoundRobin)
  | ring (ring : Ring)
deriving Inhabited

namespace Balancer

/-- Lets a host be chosen. -/
def add : Balancer → String → Balancer
  | turns r, host => turns (r.add host)
  | ring r, host => ring (r.add host)

/-- Lets a host be chosen no more. -/
def remove : Balancer → String → Balancer
  | turns r, host => turns (r.remove host)
  | ring r, host => ring (r.remove host)

def ofHosts (mode : BalanceMode) (replicas : Nat) (hosts : List String) : Balancer :=
  hosts.foldl add
    (match mode with
      | .roundRobin => turns {}
      | .consistentHash => ring (Ring.empty replicas))

def build (mode : String) (replicas : Nat) (hosts : List String) : Except BalancerError Balancer :=
  (BalanceMode.ofName mode).map fun mode => ofHosts mode replicas hosts

/-- The host for a request from the client `key`, and the balancer afterwards. -/
def balance (b : Balancer) (key : String) : Except BalancerError (String × Balancer) :=
  match b with
  | turns r =>
    match r.balance with
    | some (host, r) => .ok (host, turns r)
    | none => .error .noHost
  | ring r =>
    match r.balance key with
    | some host => .ok (host, ring r)
    | none => .error .noHost

/-- The hosts that may be chosen. -/
def hosts : Balancer → List String
  | turns r => r.hosts
  | ring r => r.hosts.keys

/-- The number of hosts that may be chosen. -/
def size (b : Balancer) : Nat := b.hosts.length

def mode : Balancer → BalanceMode
  | turns _ => .roundRobin
  | ring _ => .consistentHash

end Balancer

end ClusterGateway
