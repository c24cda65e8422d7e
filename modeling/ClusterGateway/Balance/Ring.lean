import ClusterGateway.Balance.Xxh3
import ClusterGateway.Dict

/-! # The hash ring

Each host owns points on a ring of 64-bit numbers, namely the hashes of its label texts. A key goes
to the owner of the first point at or after its own hash, past the greatest point to the least.
Should two label texts fall on one point, the host that came later owns it, and the point goes with
its owner.
-/

namespace ClusterGateway

/-- Points in ascending order with their owners. -/
abbrev RingPoints := List (UInt64 × String)

/-- A hash ring. -/
structure Ring where
  /-- How many label texts each host has. -/
  replicas : Nat
  points : RingPoints := []
  hosts : Dict Unit := ∅
deriving Inhabited

namespace Ring

/-- The empty ring; every host has at least one label text. -/
def empty (replicas : Nat) : Ring := { replicas := max replicas 1 }

def label (i : Nat) (host : String) : String := toString i ++ host

def point (i : Nat) (host : String) : UInt64 := Xxh3.hash (label i host)

/-- Puts a point at its place, in place of one that lies there already. -/
def place (at_ : UInt64) (owner : String) : RingPoints → RingPoints
  | [] => [(at_, owner)]
  | (p, o) :: rest =>
    if at_ < p then (at_, owner) :: (p, o) :: rest
    else if at_ = p then (at_, owner) :: rest
    else (p, o) :: place at_ owner rest

/-- Gives a host its points; nothing happens if it has them already. -/
def add (r : Ring) (host : String) : Ring :=
  if r.hosts.contains host then r
  else
    { r with
      hosts := r.hosts.insert host ()
      points := (List.range r.replicas).foldl (fun points i => place (point i host) host points)
        r.points }

/-- Takes a host off the ring with all points it owns. -/
def remove (r : Ring) (host : String) : Ring :=
  if r.hosts.contains host then
    { r with hosts := r.hosts.erase host, points := r.points.filter (fun p => p.2 ≠ host) }
  else r

/-- The owner of the first point at or after a hash, or else of the first point. -/
def ownerAt (points : RingPoints) (hash : UInt64) : Option String :=
  match points.find? (fun p => hash ≤ p.1) with
  | some p => some p.2
  | none => points.head?.map (·.2)

/-- The host of a key. -/
def balance (r : Ring) (key : String) : Option String := ownerAt r.points (Xxh3.hash key)

end Ring

end ClusterGateway
