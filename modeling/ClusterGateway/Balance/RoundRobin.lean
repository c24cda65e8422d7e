/-! # Rotation

Hosts take turns in the order in which they came. A count of the turns taken decides whose turn it
is; it is a 64-bit word and does not move while there is no host.
-/

namespace ClusterGateway

/-- Hosts that take turns. -/
structure RoundRobin where
  /-- The hosts in the order in which they came. -/
  hosts : List String := []
  turns : UInt64 := 0
deriving DecidableEq, Repr, Inhabited

namespace RoundRobin

/-- Lets a host join at the end; one that takes turns already keeps its place. -/
def add (r : RoundRobin) (host : String) : RoundRobin :=
  if host ∈ r.hosts then r else { r with hosts := r.hosts ++ [host] }

/-- Lets a host leave. -/
def remove (r : RoundRobin) (host : String) : RoundRobin :=
  { r with hosts := r.hosts.filter (· ≠ host) }

/-- The host whose turn it is, and the rotation after its turn. -/
def balance (r : RoundRobin) : Option (String × RoundRobin) :=
  match r.hosts[r.turns.toNat % r.hosts.length]? with
  | some host => some (host, { r with turns := r.turns + 1 })
  | none => none

end RoundRobin

end ClusterGateway
